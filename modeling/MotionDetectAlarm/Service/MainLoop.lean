import MotionDetectAlarm.DataBase.Lookup
import MotionDetectAlarm.HikDev.Drain
import MotionDetectAlarm.SerialPort.Message
import MotionDetectAlarm.SerialPort.OutputQueue

namespace MotionDetectAlarm
namespace Service

open Foundation HikDev DataBase SerialPort

/-!
# The service loop of `main`

The loop joins the three parts.  A pass over the ring reads the date, the time
and the address of each waiting alarm.  An alarm without an address, or with
one that is not in the table, is skipped with `continue`; for any other one the
numbers are looked up and a message is packed and written for each of them.  A
missing entry in the map of numbers ends the program with `-1`.

One step of the machine is one ring call, both lookups, one round of the phone
loop up to the return of `write`, or one flush.  Callbacks, transmissions by
the driver and the termination signal come between any two steps.  A step that
throws, overruns a buffer or never ends has no successor.

The last two fields are a history that no code reads: the calls made of
`PackMsgToAlarm`, and the commands for which `writeBuffer` returned
`UART_TRUE`.
-/

/-! ## Data -/

/-- The text that `%u` prints. -/
def formatUnsigned (value : UInt32) : Bytes :=
  (Nat.toDigits 10 value.toNat).map (fun digit => UInt8.ofNat digit.toNat)

/-- `snprintf(sDataTime, 128, "%u-%u-%u %u:%u:%u", ...)`. -/
def dataTimeText (read : AlarmDateTime) : Bytes :=
  (formatUnsigned read.uiYear ++ ascii "-" ++ formatUnsigned read.uiMonth ++ ascii "-" ++
    formatUnsigned read.uiDay ++ ascii " " ++ formatUnsigned read.uiHour ++ ascii ":" ++
    formatUnsigned read.uiMinute ++ ascii ":" ++ formatUnsigned read.uiSecond).take 127

/-- The arguments of one call of `PackMsgToAlarm`. -/
structure PackCall where
  strDateTime : Bytes
  strIp : Bytes
  strName : Bytes
  strPhoneNum : Bytes
  deriving DecidableEq, Repr

/-- The local variables of one alarm once both lookups have succeeded. -/
structure Job where
  strDataTime : Bytes
  strAlarmIp : Bytes
  strAlarmDevName : Bytes
  vstrPhone : List Bytes
  deriving DecidableEq, Repr

namespace Job

/-- The call made for one number. -/
def call (job : Job) (strPhoneNum : Bytes) : PackCall where
  strDateTime := job.strDataTime
  strIp := job.strAlarmIp
  strName := job.strAlarmDevName
  strPhoneNum := strPhoneNum

def packMsg (job : Job) (strPhoneNum : Bytes) : Except Fault Bytes :=
  packMsgToAlarm job.strDataTime job.strAlarmIp job.strAlarmDevName strPhoneNum

end Job

/-- What `main` does next. -/
inductive Task where
  /-- A ring call of the pass, or the test of `ServiceRun` at the head. -/
  | ring
  /-- `GetCameraName` and `GetCameraWarnPhone`. -/
  | lookup (strDataTime strAlarmIp : Bytes)
  /-- The phone loop, at the test of its counter. -/
  | phones (job : Job) (j : UInt32)
  /-- The flush inside `writeBuffer`. -/
  | flush (job : Job) (j : UInt32)
  /-- Nothing: `main` has returned this value. -/
  | exited (code : Int)
  deriving DecidableEq, Repr

structure MainLoop where
  drain : Drain
  dataBase : DataBaseOperate
  msgModuleCom : Port
  serviceRun : Bool
  task : Task
  calls : List PackCall
  commands : List Bytes

namespace MainLoop

/-- The state in which `main` enters the loop, with a loaded table and an open
port. -/
def start (dataBase : DataBaseOperate) (isnormal : Int32) : MainLoop where
  drain := Drain.start
  dataBase := dataBase
  msgModuleCom := { isnormal := isnormal, queue := [], transmitted := [] }
  serviceRun := true
  task := .ring
  calls := []
  commands := []

/-! ## Steps -/

/-- A ring call.  The address of an alarm decides what follows it. -/
def ringCall (localtimeR : Int -> Tm) (main : MainLoop) : Except Fault MainLoop :=
  match main.drain.consume localtimeR with
  | .error fault => .error fault
  | .ok drain =>
      match main.drain.pass with
      | .ip _ i read =>
          match main.drain.ring.hikDevGetAlarmIp i [] with
          | .error fault => .error fault
          | .ok strAlarmIp =>
              .ok { main with
                drain := drain
                task := if strAlarmIp.isEmpty then .ring else .lookup (dataTimeText read) strAlarmIp }
      | _ => .ok { main with drain := drain }

def lookup (main : MainLoop) (strDataTime strAlarmIp : Bytes) : Except Fault MainLoop :=
  match main.dataBase.getCameraName strAlarmIp with
  | .error fault => .error fault
  | .ok (none, dataBase) => .ok { main with dataBase := dataBase, task := .ring }
  | .ok (some strAlarmDevName, dataBase) =>
      match dataBase.getCameraWarnPhone strAlarmIp with
      | none => .ok { main with dataBase := dataBase, task := .exited (-1) }
      | some vstrPhone =>
          .ok { main with
            dataBase := dataBase
            task := .phones ⟨strDataTime, strAlarmIp, strAlarmDevName, vstrPhone⟩ 0 }

/-- The copy into `BufSent[512]`. -/
def bufSent (strMsgSent : Bytes) : Except Fault Bytes :=
  if strMsgSent.length ≤ 512 then .ok strMsgSent else .error .outOfBounds

/-- One round of the phone loop, to the return of `write`. -/
def phoneRound (main : MainLoop) (job : Job) (j : UInt32) (outcome : WriteOutcome) : Except Fault MainLoop :=
  match job.vstrPhone[j.toNat]? with
  | none => .ok { main with task := .ring }
  | some strPhoneNum =>
      match job.packMsg strPhoneNum with
      | .error fault => .error fault
      | .ok strMsgSent =>
          match bufSent strMsgSent with
          | .error fault => .error fault
          | .ok buf =>
              match main.msgModuleCom.writeBuffer outcome buf with
              | (port, .returned code) =>
                  .ok { main with
                    msgModuleCom := port
                    task := .phones job (j + 1)
                    calls := main.calls ++ [job.call strPhoneNum]
                    commands := if code = uartTrue then main.commands ++ [buf] else main.commands }
              | (port, .flushing) =>
                  .ok { main with
                    msgModuleCom := port
                    task := .flush job j
                    calls := main.calls ++ [job.call strPhoneNum] }

/-- The next step of `main`.  The outcome is that of the write, if the step
makes one. -/
def next (localtimeR : Int -> Tm) (main : MainLoop) (outcome : WriteOutcome) : Except Fault MainLoop :=
  match main.task with
  | .ring =>
      if main.drain.pass = .head ∧ main.serviceRun = false then .ok { main with task := .exited 0 }
      else main.ringCall localtimeR
  | .lookup strDataTime strAlarmIp => main.lookup strDataTime strAlarmIp
  | .phones job j => main.phoneRound job j outcome
  | .flush job j => .ok { main with msgModuleCom := main.msgModuleCom.tcflush, task := .phones job (j + 1) }
  | .exited _ => .ok main

/-- What may happen next. -/
inductive Event where
  | callback (call : AlarmCallback)
  | main (outcome : WriteOutcome)
  | transmit (number : Nat)
  | sigterm

def advance (localtimeR : Int -> Tm) (main : MainLoop) : Event -> Except Fault MainLoop
  | .callback call => (main.drain.callback call).map (fun drain => { main with drain := drain })
  | .main outcome => main.next localtimeR outcome
  | .transmit number => .ok { main with msgModuleCom := main.msgModuleCom.transmit number }
  | .sigterm => .ok { main with serviceRun := false }

def step (localtimeR : Int -> Tm) (main : MainLoop) (event : Event) (after : MainLoop) : Prop :=
  main.advance localtimeR event = .ok after

/-- The alarms that the callbacks of a run publish, in order of arrival. -/
def arrivals (events : List Event) : List AlarmMotionDetect :=
  events.filterMap (fun event => match event with
    | .callback call => call.record
    | _ => none)

/-! ## What each step does -/

section Steps

variable {localtimeR : Int -> Tm} {main after : MainLoop}

/-- A ring call moves the pass on.  When it has read an address, the reading is
entered and the address decides what comes next. -/
theorem ringCall_cases (called : main.ringCall localtimeR = .ok after) :
    exists drain, main.drain.consume localtimeR = .ok drain ∧
      ((drain.presented = main.drain.presented ∧ after = { main with drain := drain }) ∨
      exists read strAlarmIp, drain.presented = main.drain.presented ++ [(read, strAlarmIp)] ∧
        after = { main with
          drain := drain
          task := if strAlarmIp.isEmpty then .ring else .lookup (dataTimeText read) strAlarmIp }) := by
  unfold ringCall at called
  split at called
  · cases called
  · rename_i drain consumed
    refine ⟨drain, consumed, ?_⟩
    split at called
    · rename_i uiAlarmNum i read here
      split at called
      · cases called
      · rename_i strAlarmIp address
        cases called
        refine Or.inr ⟨read, strAlarmIp, ?_, rfl⟩
        have entered : drain = { main.drain with
            pass := if i + 1 < uiAlarmNum then .dateTime uiAlarmNum (i + 1) else .release uiAlarmNum
            presented := main.drain.presented ++ [(read, strAlarmIp)] } := by
          rw [Drain.consume, here] at consumed
          simp only [address] at consumed
          exact (Except.ok.inj consumed).symm
        rw [entered]
    · rename_i elsewhere
      cases called
      refine Or.inl ⟨?_, rfl⟩
      rcases Drain.consume_cases consumed with ⟨-, -, rfl⟩ | ⟨-, -, rfl⟩ | ⟨_, _, _, -, -, rfl⟩ |
        ⟨uiAlarmNum, i, read, _, here, -, -⟩ | ⟨_, -, rfl⟩
      · rfl
      · rfl
      · rfl
      · exact absurd here (elsewhere uiAlarmNum i read)
      · rfl

/-- On a loaded table the lookups skip an unknown address and find the numbers
of a known one.  They never end the program. -/
theorem lookup_held {rows : List CameraRow} {strDataTime strAlarmIp : Bytes}
    (held : main.dataBase.Holds rows) (looked : main.lookup strDataTime strAlarmIp = .ok after) :
    (rows.filter (fun row => row .ip = strAlarmIp) = [] ∧ after = { main with task := .ring }) ∨
    exists first last, (rows.filter (fun row => row .ip = strAlarmIp)).head? = some first ∧
      (rows.filter (fun row => row .ip = strAlarmIp)).getLast? = some last ∧
      after = { main with
        task := .phones ⟨strDataTime, strAlarmIp, first .name, (last .phonenums).splitOn 0x2C⟩ 0 } := by
  unfold lookup at looked
  cases returned : main.dataBase.getCameraName strAlarmIp with
  | error fault =>
      rw [returned] at looked
      cases looked
  | ok answer =>
      have known := getCameraName_held held returned
      subst known
      have phones := held.phones strAlarmIp
      rw [returned, firstName_eq] at looked
      cases matching : rows.filter (fun row => row .ip = strAlarmIp) with
      | nil =>
          rw [matching] at looked
          exact Or.inl ⟨rfl, (Except.ok.inj looked).symm⟩
      | cons first others =>
          rw [matching] at looked phones
          have last := List.getLast?_cons (a := first) (l := others)
          rw [last] at phones
          simp only [List.head?_cons, Option.map_some, DataBaseOperate.getCameraWarnPhone, phones] at looked
          exact Or.inr ⟨first, _, rfl, last, (Except.ok.inj looked).symm⟩

/-- A round of the phone loop ends it, or makes one call and one write. -/
theorem phoneRound_cases {job : Job} {j : UInt32} {outcome : WriteOutcome}
    (rounded : main.phoneRound job j outcome = .ok after) :
    (job.vstrPhone[j.toNat]? = none ∧ after = { main with task := .ring }) ∨
    exists strPhoneNum buf, job.vstrPhone[j.toNat]? = some strPhoneNum ∧ job.packMsg strPhoneNum = .ok buf ∧
      ((exists port code, main.msgModuleCom.writeBuffer outcome buf = (port, .returned code) ∧
        after = { main with
          msgModuleCom := port
          task := .phones job (j + 1)
          calls := main.calls ++ [job.call strPhoneNum]
          commands := if code = uartTrue then main.commands ++ [buf] else main.commands }) ∨
      (exists port, main.msgModuleCom.writeBuffer outcome buf = (port, .flushing) ∧
        after = { main with
          msgModuleCom := port
          task := .flush job j
          calls := main.calls ++ [job.call strPhoneNum] })) := by
  unfold phoneRound at rounded
  split at rounded
  · rename_i past
    exact Or.inl ⟨past, (Except.ok.inj rounded).symm⟩
  · rename_i strPhoneNum listed
    split at rounded
    · cases rounded
    · rename_i strMsgSent packed
      unfold bufSent at rounded
      split at rounded
      · cases rounded
      · rename_i buf copied
        split at copied
        · cases copied
          refine Or.inr ⟨strPhoneNum, strMsgSent, listed, packed, ?_⟩
          split at rounded
          · rename_i port code written
            exact Or.inl ⟨port, code, written, (Except.ok.inj rounded).symm⟩
          · rename_i port written
            exact Or.inr ⟨port, written, (Except.ok.inj rounded).symm⟩
        · cases copied

/-- Everything a step of `main` can be, by the task it is at. -/
theorem next_cases {outcome : WriteOutcome} (moved : main.next localtimeR outcome = .ok after) :
    (main.task = .ring ∧ after = { main with task := .exited 0 }) ∨
    (main.task = .ring ∧ main.ringCall localtimeR = .ok after) ∨
    (exists strDataTime strAlarmIp, main.task = .lookup strDataTime strAlarmIp ∧
      main.lookup strDataTime strAlarmIp = .ok after) ∨
    (exists job j, main.task = .phones job j ∧ main.phoneRound job j outcome = .ok after) ∨
    (exists job j, main.task = .flush job j ∧
      after = { main with msgModuleCom := main.msgModuleCom.tcflush, task := .phones job (j + 1) }) ∨
    (exists code, main.task = .exited code ∧ after = main) := by
  unfold next at moved
  split at moved
  · rename_i here
    split at moved
    · exact Or.inl ⟨here, (Except.ok.inj moved).symm⟩
    · exact Or.inr (Or.inl ⟨here, moved⟩)
  · rename_i strDataTime strAlarmIp here
    exact Or.inr (Or.inr (Or.inl ⟨strDataTime, strAlarmIp, here, moved⟩))
  · rename_i job j here
    exact Or.inr (Or.inr (Or.inr (Or.inl ⟨job, j, here, moved⟩)))
  · rename_i job j here
    exact Or.inr (Or.inr (Or.inr (Or.inr (Or.inl ⟨job, j, here, (Except.ok.inj moved).symm⟩))))
  · rename_i code here
    exact Or.inr (Or.inr (Or.inr (Or.inr (Or.inr ⟨code, here, (Except.ok.inj moved).symm⟩))))

/-- At the flush there is one thing to do. -/
theorem next_flush {job : Job} {j : UInt32} {outcome : WriteOutcome} (here : main.task = .flush job j)
    (moved : main.next localtimeR outcome = .ok after) :
    after = { main with msgModuleCom := main.msgModuleCom.tcflush, task := .phones job (j + 1) } := by
  rw [next, here] at moved
  exact (Except.ok.inj moved).symm

/-- The lookups touch neither the ring, nor the port, nor the history.  They go
on to the next alarm, end the program, or lead to the phone loop. -/
theorem lookup_cases {strDataTime strAlarmIp : Bytes} (looked : main.lookup strDataTime strAlarmIp = .ok after) :
    exists dataBase task, after = { main with dataBase := dataBase, task := task } ∧
      (task = .ring ∨ task = .exited (-1) ∨
        exists strAlarmDevName vstrPhone,
          task = .phones ⟨strDataTime, strAlarmIp, strAlarmDevName, vstrPhone⟩ 0) := by
  unfold lookup at looked
  split at looked
  · cases looked
  · exact ⟨_, _, (Except.ok.inj looked).symm, Or.inl rfl⟩
  · split at looked
    · exact ⟨_, _, (Except.ok.inj looked).symm, Or.inr (Or.inl rfl)⟩
    · exact ⟨_, _, (Except.ok.inj looked).symm, Or.inr (Or.inr ⟨_, _, rfl⟩)⟩

/-- To the ring, a step of `main` is a consumer call or nothing. -/
theorem next_drain {outcome : WriteOutcome} (moved : main.next localtimeR outcome = .ok after) :
    after.drain = main.drain ∨ main.drain.consume localtimeR = .ok after.drain := by
  rcases next_cases moved with ⟨-, rfl⟩ | ⟨-, called⟩ | ⟨_, _, -, looked⟩ | ⟨job, j, -, rounded⟩ |
    ⟨_, _, -, rfl⟩ | ⟨_, -, rfl⟩
  · exact Or.inl rfl
  · rcases ringCall_cases called with ⟨drain, consumed, ⟨-, rfl⟩ | ⟨_, _, -, rfl⟩⟩
    · exact Or.inr consumed
    · exact Or.inr consumed
  · rcases lookup_cases looked with ⟨_, _, rfl, -⟩
    exact Or.inl rfl
  · rcases phoneRound_cases rounded with ⟨-, rfl⟩ | ⟨_, _, -, -, ⟨_, _, -, rfl⟩ | ⟨_, -, rfl⟩⟩
    · exact Or.inl rfl
    · exact Or.inl rfl
    · exact Or.inl rfl
  · exact Or.inl rfl
  · exact Or.inl rfl

/-- To the ring, any step is a step of the drain or nothing. -/
theorem step_drain {event : Event} (stepped : step localtimeR main event after) :
    after.drain = main.drain ∨ exists drainEvent, Drain.step localtimeR main.drain drainEvent after.drain := by
  cases event with
  | callback call =>
      rcases exists_of_map_eq_ok stepped with ⟨drain, called, rfl⟩
      exact Or.inr ⟨.callback call, called⟩
  | main outcome =>
      rcases next_drain stepped with same | consumed
      · exact Or.inl same
      · exact Or.inr ⟨.consume, consumed⟩
  | transmit number =>
      cases stepped
      exact Or.inl rfl
  | sigterm =>
      cases stepped
      exact Or.inl rfl

/-- The history of the ring grows by what the callbacks publish. -/
theorem step_published {event : Event} (stepped : step localtimeR main event after) :
    after.drain.published = main.drain.published ++ arrivals [event] := by
  cases event with
  | callback call =>
      rcases exists_of_map_eq_ok stepped with ⟨drain, called, rfl⟩
      have grown := (Drain.callback_frame called).1
      have single : arrivals [.callback call] = call.record.toList := by
        cases written : call.record <;> simp [arrivals, written]
      rw [single]
      exact grown
  | main outcome =>
      rw [show arrivals [.main outcome] = [] from rfl, List.append_nil]
      rcases next_drain stepped with same | consumed
      · rw [same]
      · exact (Drain.consume_frame consumed).1
  | transmit number =>
      cases stepped
      exact (List.append_nil _).symm
  | sigterm =>
      cases stepped
      exact (List.append_nil _).symm

theorem arrivals_append (events later : List Event) : arrivals (events ++ later) = arrivals events ++ arrivals later :=
  List.filterMap_append

end Steps

/-- A motion alarm of the camera in the lobby. -/
def lobbyCall : AlarmCallback where
  lCommand := commAlarmV30
  pAlarmer :=
    { AlarmMotionDetect.zeroed.struAlarmDevInfo with
      byDeviceIPValid := 1
      sDeviceIP := ⟨lobbyAddress.text, lobbyAddress.noNul, by decide⟩ }
  alarmInfo := { dwAlarmType := 3, byChannel := Vector.replicate 64 1 }
  now := 3661

end MainLoop

end Service
end MotionDetectAlarm
