import MotionDetectAlarm.SerialPort.Setup
import MotionDetectAlarm.Service.Configuration
import MotionDetectAlarm.Service.PidFile
import MotionDetectAlarm.Service.Progress
import MotionDetectAlarm.Service.Subscription

namespace MotionDetectAlarm
namespace Service

open Foundation DataBase HikDev SerialPort

/-!
# The whole of `main`

`main` starts, serves and leaves.  None of the steps of the start stops it: one
that fails clears `ServiceRun`, the next one is taken all the same, and the loop
is then left at its first test.  Behind the loop the pid file is removed, the
port is closed and the SDK is cleaned up; the destructor of the port closes it
once more.

The callback and the signal handler work on static data, so they come between any
two steps of `main`, during the start as well.  One step of the start is one call
of a subsystem, or one round of the login loop.
-/

/-! ## Data -/

/-- What the system, the libraries and the device answer. -/
structure World where
  pid : PidCalls
  fopen : Csv.Fopen
  /-- The memory that the reader of the configuration finds in its buffer. -/
  buffer : Nat -> UInt8
  client : MysqlClient
  /-- `NET_DVR_Init` returns false. -/
  initFails : Bool
  sdk : Sdk
  /-- `NET_DVR_Cleanup` returns false. -/
  cleanupFails : Bool
  tty : Tty
  behind : Behind
  localtimeR : Int -> Tm

/-- Where `main` is. -/
inductive Stage where
  | createPidFile
  | parseCsvData
  | connectDataBase
  | initialSDK
  /-- The login loop at the test of its counter. -/
  | camera (i cameraNum : Nat)
  | openPort
  /-- The service loop. -/
  | loop
  | remove
  | close
  | deinitialSDK
  | returned (code : Int)
  deriving DecidableEq, Repr

/-- The service loop has not been entered. -/
def Stage.inStart : Stage -> Bool
  | createPidFile => true
  | parseCsvData => true
  | connectDataBase => true
  | initialSDK => true
  | camera _ _ => true
  | openPort => true
  | _ => false

/-- The state of the program.  The part that the service loop works on is there
from the beginning. -/
structure Program where
  stage : Stage
  runDirectory : RunDirectory
  dbCfg : CsvParse
  operate : HikDevOperate
  /-- The SDK has been initialised and not been cleaned up. -/
  sdkReady : Bool
  fd : Int32
  /-- The descriptors of the port that have been closed, in order. -/
  closed : List Int32
  main : MainLoop

/-- `ServiceRun = false` under a condition. -/
def MainLoop.stopIf (main : MainLoop) (failed : Bool) : MainLoop :=
  if failed then { main with serviceRun := false } else main

def MainLoop.withTable (main : MainLoop) (dataBase : DataBaseOperate) : MainLoop :=
  { main with dataBase := dataBase }

def MainLoop.withPort (main : MainLoop) (isnormal : Int32) : MainLoop :=
  { main with msgModuleCom := { main.msgModuleCom with isnormal := isnormal } }

namespace Program

/-- The program when `main` is called. -/
def start (runDirectory : RunDirectory) : Program where
  stage := .createPidFile
  runDirectory := runDirectory
  dbCfg := .constructed
  operate := .constructed
  sdkReady := false
  fd := uartFalse
  closed := []
  main := MainLoop.start .empty uartFalse

/-! ## Steps -/

variable (world : World) (program : Program)

def createPidFile : Program :=
  let (code, _, left) := world.pid.createPidFile program.runDirectory
  { program with
    stage := .parseCsvData
    runDirectory := left
    main := program.main.stopIf (decide (code < 0)) }

/-- An exception of the reader gets out of `main`. -/
def parseCsvData : Except Fault Program :=
  match program.dbCfg.parseCsvData world.fopen world.buffer (some CsvParse.csvPath) with
  | .error _ => .error .outOfRange
  | .ok (parsed, dbCfg) =>
      .ok { program with
        stage := .connectDataBase
        dbCfg := dbCfg
        main := program.main.stopIf (!parsed) }

/-- `StrToUint` for the port, and `ConnectDataBase`. -/
def connectDataBase : Except Fault Program :=
  let dbCfg := program.dbCfg.dbCfg
  (program.main.dataBase.connectDataBase world.client (some (cStr dbCfg.dbIp)) (strToUintOut dbCfg.dbPort 0)
    (some (cStr dbCfg.dbUserName)) (some (cStr dbCfg.dbPasswd)) (some (cStr dbCfg.dbName))
    (some (cStr dbCfg.dbTable))).map (fun (ret, dataBase) =>
      { program with
        stage := .initialSDK
        main := (program.main.withTable dataBase).stopIf ((strToUint dbCfg.dbPort).isNone || !ret) })

def initialSDK : Program :=
  { program with
    stage := .camera 0 program.main.dataBase.getCameraNum
    sdkReady := !world.initFails
    main := program.main.stopIf world.initFails }

/-- One round of the login loop, or its end. -/
def camera (i cameraNum : Nat) : Except Fault Program :=
  if i < cameraNum then
    (Subscribing.round world.sdk { dataBase := program.main.dataBase, operate := program.operate } i).map
      (fun cameras =>
        { program with
          stage := .camera (i + 1) cameraNum
          operate := cameras.operate
          main := program.main.withTable cameras.dataBase })
  else .ok { program with stage := .openPort }

/-- `Open(115200, 8, 1, 'N')`. -/
def openPort : Except Fault Program :=
  (world.tty.openPort world.behind program.main.msgModuleCom.isnormal 115200 8 1 'N'.toUInt8).map (fun (opened : Opened) =>
    { program with
      stage := .loop
      fd := opened.fd
      main := (program.main.withPort opened.isnormal).stopIf (decide (opened.code < 0)) })

/-- A step of the service loop, or the way out of it.  A return from inside the
loop leaves the rest to the destructor of the port. -/
def serve (outcome : WriteOutcome) : Except Fault Program :=
  match program.main.task with
  | .exited 0 => .ok { program with stage := .remove }
  | .exited code => .ok { program with stage := .returned code, closed := program.closed ++ [program.fd] }
  | _ => (program.main.next world.localtimeR outcome).map (fun main => { program with main := main })

/-- The next step of `main`. -/
def next (outcome : WriteOutcome) : Except Fault Program :=
  match program.stage with
  | .createPidFile => .ok (program.createPidFile world)
  | .parseCsvData => program.parseCsvData world
  | .connectDataBase => program.connectDataBase world
  | .initialSDK => .ok (program.initialSDK world)
  | .camera i cameraNum => program.camera world i cameraNum
  | .openPort => program.openPort world
  | .loop => program.serve world outcome
  | .remove => .ok { program with stage := .close, runDirectory := world.pid.remove program.runDirectory }
  | .close => .ok { program with stage := .deinitialSDK, closed := program.closed ++ [program.fd] }
  | .deinitialSDK =>
      .ok { program with
        stage := .returned 0
        sdkReady := program.sdkReady && world.cleanupFails
        closed := program.closed ++ [program.fd] }
  | .returned _ => .ok program

/-- A step of `main`, or a change of what its loop works on by a callback, the
driver or the signal. -/
def advance : MainLoop.Event -> Except Fault Program
  | .main outcome => program.next world outcome
  | event => (program.main.advance world.localtimeR event).map (fun main => { program with main := main })

def step (event : MainLoop.Event) (after : Program) : Prop :=
  program.advance world event = .ok after

end Program

end Service
end MotionDetectAlarm
