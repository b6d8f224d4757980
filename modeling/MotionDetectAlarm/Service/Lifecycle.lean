import MotionDetectAlarm.Service.Program
import MotionDetectAlarm.Service.Wire

namespace MotionDetectAlarm
namespace Service

open Foundation DataBase HikDev SerialPort

/-!
# From the first line of `main` to its last

The loop of a whole program does what the loop on its own does.  What the
callbacks have put into the ring during the start is there when the loop begins,
as if the loop had been waiting at its head; a step of the start that has failed
is to it what the signal is.  So every run of the program, once the start is
over, is a run of the loop from what the start leaves, and what has been shown of
the loop holds of the program.
-/

/-! ## Before the loop -/

/-- A condition on the events of a run that the signal always meets. -/
structure Calm (permitted : MainLoop.Event -> Drain -> Prop) : Prop where
  start : permitted .sigterm Drain.start
  keeps : forall event drain, permitted event drain -> permitted .sigterm drain

namespace MainLoop

/-- The steps of the loop under a condition on the event and the ring behind it. -/
def permittedStep (localtimeR : Int -> Tm) (permitted : Event -> Drain -> Prop) :
    MainLoop -> Event -> MainLoop -> Prop :=
  Guarded (step localtimeR) (fun _ event after => permitted event after.drain)

/-- `main` has not begun a pass, and nothing has come out of it. -/
structure Untouched (main : MainLoop) : Prop where
  head : main.drain.pass = .head
  released : main.drain.released = 0
  presented : main.drain.presented = []
  calls : main.calls = []
  commands : main.commands = []
  queue : main.msgModuleCom.queue = []
  transmitted : main.msgModuleCom.transmitted = []

/-- A stopped service that has not begun a pass.  It returns, or has returned. -/
structure Idle (main : MainLoop) : Prop extends Untouched main where
  stopped : main.serviceRun = false
  task : main.task = .ring ∨ main.task = .exited 0

section Steps

variable {localtimeR : Int -> Tm} {permitted : Event -> Drain -> Prop} {main after : MainLoop} {event : Event}

/-- The driver has nothing to transmit, and callbacks do not take part in a pass. -/
theorem Untouched.step_other (untouched : Untouched main) (stepped : step localtimeR main event after)
    (other : event.ofMain = false) : Untouched after := by
  have head := (MainLoop.step_other stepped other).1.trans untouched.head
  have released := (MainLoop.step_other stepped other).2.1.trans untouched.released
  cases event with
  | callback call =>
      rcases exists_of_map_eq_ok stepped with ⟨drain, called, rfl⟩
      exact { untouched with
        head := head
        released := released
        presented := (Drain.callback_frame called).2.2.2.trans untouched.presented }
  | main outcome => cases other
  | transmit number =>
      cases stepped
      have queue : main.msgModuleCom.queue.drop number = [] := by
        rw [untouched.queue, List.drop_nil]
      have transmitted : main.msgModuleCom.transmitted ++ main.msgModuleCom.queue.take number = [] := by
        rw [untouched.queue, untouched.transmitted, List.take_nil, List.append_nil]
      exact { untouched with queue := queue, transmitted := transmitted }
  | sigterm =>
      cases stepped
      exact { untouched with head := head }

/-- A stopped service stays as it is until it returns. -/
theorem Idle.step (idle : Idle main) (stepped : MainLoop.step localtimeR main event after) : Idle after := by
  cases other : event.ofMain with
  | false =>
      refine ⟨idle.toUntouched.step_other stepped other, ?_, ?_⟩
      · rcases step_serviceRun stepped with same | ⟨-, now⟩
        · exact same.trans idle.stopped
        · exact now
      · rw [(MainLoop.step_other stepped other).2.2]
        exact idle.task
  | true =>
      cases event with
      | callback call => cases other
      | transmit number => cases other
      | sigterm => cases other
      | main outcome =>
          have moved : main.next localtimeR outcome = .ok after := stepped
          rcases idle.task with here | ended
          · rcases next_ring here moved with ⟨-, -, rfl⟩ | ⟨running, -⟩
            · exact { idle with task := Or.inr rfl }
            · exact absurd ⟨idle.head, idle.stopped⟩ running
          · rw [next, ended] at moved
            cases moved
            exact idle

variable {dataBase : DataBaseOperate} {isnormal : Int32} {events : List Event}

/-- Before the first step of `main` nothing has happened but to the ring. -/
theorem untouched_of_run (run : Run (permittedStep localtimeR permitted) (start dataBase isnormal) events main)
    (foreign : forall event, event ∈ events -> event.ofMain = false) : Untouched main ∧ main.task = .ring := by
  induction run with
  | nil =>
      refine ⟨?_, rfl⟩
      exact {
        head := rfl
        released := rfl
        presented := rfl
        calls := rfl
        commands := rfl
        queue := rfl
        transmitted := rfl }
  | snoc _ stepped ih =>
      rcases ih (fun event member => foreign event (List.mem_append_left _ member)) with ⟨untouched, here⟩
      have other := foreign _ (List.mem_append_right _ (List.mem_singleton_self _))
      exact ⟨untouched.step_other stepped.1 other, (MainLoop.step_other stepped.1 other).2.2.trans here⟩

/-- What happens before the first step of `main` does not depend on the table or
on the port. -/
theorem run_moved (run : Run (permittedStep localtimeR permitted) (start dataBase isnormal) events main)
    (foreign : forall event, event ∈ events -> event.ofMain = false) (other : DataBaseOperate) (normal : Int32) :
    Run (permittedStep localtimeR permitted) (start other normal) events ((main.withTable other).withPort normal) := by
  induction run with
  | nil => exact .nil
  | @snoc events middle final event _ stepped ih =>
      have earlier := ih (fun event member => foreign event (List.mem_append_left _ member))
      apply earlier.snoc
      have last := foreign event (List.mem_append_right _ (List.mem_singleton_self _))
      rcases stepped with ⟨stepped, allowed⟩
      refine ⟨?_, allowed⟩
      cases event with
      | callback call =>
          rcases exists_of_map_eq_ok stepped with ⟨drain, called, rfl⟩
          change (middle.drain.callback call).map _ = _
          rw [called]
          rfl
      | main outcome => cases last
      | transmit number =>
          cases stepped
          rfl
      | sigterm =>
          cases stepped
          rfl

/-- The signal may come at any time. -/
theorem permitted_sigterm (calm : Calm permitted)
    (run : Run (permittedStep localtimeR permitted) (start dataBase isnormal) events main) :
    permitted .sigterm main.drain := by
  cases run with
  | nil => exact calm.start
  | snoc _ stepped => exact calm.keeps _ _ stepped.2

end Steps

/-- The state has been reached without a step of `main`, with these alarms. -/
def Waiting (localtimeR : Int -> Tm) (permitted : Event -> Drain -> Prop) (events : List Event)
    (main : MainLoop) : Prop :=
  exists foreign, (forall event, event ∈ foreign -> event.ofMain = false) ∧
    Run (permittedStep localtimeR permitted) (start main.dataBase main.msgModuleCom.isnormal) foreign main ∧
    arrivals foreign = arrivals events

section Waiting

variable {localtimeR : Int -> Tm} {permitted : Event -> Drain -> Prop} {events : List Event} {main after : MainLoop}

theorem step_frame {event : Event} (stepped : step localtimeR main event after) (other : event.ofMain = false) :
    after.dataBase = main.dataBase ∧ after.msgModuleCom.isnormal = main.msgModuleCom.isnormal ∧
      (after.serviceRun = true -> main.serviceRun = true) := by
  cases event with
  | callback call =>
      rcases exists_of_map_eq_ok stepped with ⟨drain, -, rfl⟩
      exact ⟨rfl, rfl, id⟩
  | main outcome => cases other
  | transmit number =>
      cases stepped
      exact ⟨rfl, rfl, id⟩
  | sigterm =>
      cases stepped
      exact ⟨rfl, rfl, nofun⟩

/-- An event of the environment comes behind the others. -/
theorem Waiting.step {event : Event} (waiting : Waiting localtimeR permitted events main)
    (stepped : permittedStep localtimeR permitted main event after) (other : event.ofMain = false) :
    Waiting localtimeR permitted (events ++ [event]) after := by
  rcases waiting with ⟨foreign, all, run, same⟩
  rcases step_frame stepped.1 other with ⟨table, normal, -⟩
  refine ⟨foreign ++ [event], ?_, ?_, ?_⟩
  · intro label member
    rcases List.mem_append.mp member with earlier | last
    · exact all label earlier
    · rw [List.mem_singleton.mp last]
      exact other
  · rw [table, normal]
    exact run.snoc stepped
  · rw [arrivals_append, arrivals_append, same]

/-- A step of the start adds no alarm. -/
theorem Waiting.pass (waiting : Waiting localtimeR permitted events main) (outcome : WriteOutcome) :
    Waiting localtimeR permitted (events ++ [.main outcome]) main := by
  rcases waiting with ⟨foreign, all, run, same⟩
  refine ⟨foreign, all, run, ?_⟩
  rw [arrivals_append, same]
  exact (List.append_nil _).symm

/-- A step of the start that stops the service is a signal to the loop. -/
theorem Waiting.stopIf (calm : Calm permitted) (waiting : Waiting localtimeR permitted events main) (failed : Bool) :
    Waiting localtimeR permitted events (main.stopIf failed) := by
  cases failed with
  | false => exact waiting
  | true =>
      rcases waiting with ⟨foreign, all, run, same⟩
      have allowed := permitted_sigterm calm run
      have signalled : permittedStep localtimeR permitted main .sigterm (main.stopIf true) := ⟨rfl, allowed⟩
      refine ⟨foreign ++ [.sigterm], ?_, run.snoc signalled, ?_⟩
      · intro label member
        rcases List.mem_append.mp member with earlier | last
        · exact all label earlier
        · rw [List.mem_singleton.mp last]
          rfl
      · rw [arrivals_append, same]
        exact List.append_nil _

/-- The start fills the table. -/
theorem Waiting.withTable (waiting : Waiting localtimeR permitted events main) (dataBase : DataBaseOperate) :
    Waiting localtimeR permitted events (main.withTable dataBase) := by
  rcases waiting with ⟨foreign, all, run, same⟩
  exact ⟨foreign, all, run_moved run all dataBase main.msgModuleCom.isnormal, same⟩

/-- The start opens the port. -/
theorem Waiting.withPort (waiting : Waiting localtimeR permitted events main) (isnormal : Int32) :
    Waiting localtimeR permitted events (main.withPort isnormal) := by
  rcases waiting with ⟨foreign, all, run, same⟩
  exact ⟨foreign, all, run_moved run all main.dataBase isnormal, same⟩

theorem Waiting.untouched (waiting : Waiting localtimeR permitted events main) :
    Untouched main ∧ main.task = .ring := by
  rcases waiting with ⟨foreign, all, run, -⟩
  exact untouched_of_run run all

end Waiting

theorem stopIf_frame (main : MainLoop) (failed : Bool) :
    (main.stopIf failed).dataBase = main.dataBase ∧ (main.stopIf failed).msgModuleCom = main.msgModuleCom ∧
      ((main.stopIf failed).serviceRun = true -> main.serviceRun = true ∧ failed = false) := by
  cases failed with
  | false => exact ⟨rfl, rfl, fun running => ⟨running, rfl⟩⟩
  | true => exact ⟨rfl, rfl, nofun⟩

end MainLoop

/-! ## The start -/

/-- The answers of the world to a start with this configuration. -/
def World.host (world : World) (runDirectory : RunDirectory) (parsed : Bool) (dbCfg : CsvParse)
    (openPort : Int32) : Host where
  createPidFile := (world.pid.createPidFile runDirectory).1
  parseCsvData := parsed
  dbCfg := dbCfg.dbCfg
  client := world.client
  initialSDK := !world.initFails
  openPort := openPort
  sigterm := false

/-- What the configuration file gives. -/
def World.Parses (world : World) (parsed : Bool) (dbCfg : CsvParse) : Prop :=
  CsvParse.constructed.parseCsvData world.fopen world.buffer (some CsvParse.csvPath) = .ok (parsed, dbCfg)

/-- The steps before the port have succeeded, with this result of the connection. -/
structure Host.Passed (host : Host) (ret : Bool) : Prop where
  createPidFile : ¬ host.createPidFile < 0
  parseCsvData : host.parseCsvData = true
  port : (strToUint host.dbCfg.dbPort).isNone = false
  connect : ret = true
  initialSDK : host.initialSDK = true

/-- The loop runs if and only if every step of the start has succeeded. -/
theorem Host.startup_running {host : Host} {ret : Bool} {loaded : DataBaseOperate} {started : Startup}
    (connected : host.connect = .ok (ret, loaded)) (run : host.startup = .ok started) :
    started.serviceRun = true ↔ host.Passed ret ∧ ¬ host.openPort < 0 ∧ host.sigterm = false := by
  rcases exists_of_bind_eq_ok run with ⟨answer, connects, rest⟩
  cases connected.symm.trans connects
  rcases exists_of_bind_eq_ok rest with ⟨logins, -, last⟩
  cases last
  simp only [Bool.if_false_left, Bool.and_true, Bool.and_eq_true, Bool.not_eq_true', decide_eq_false_iff_not]
  constructor
  · rintro ⟨quiet, opened, initial, connect, number, parsed, pid⟩
    have port : (strToUint host.dbCfg.dbPort).isNone = false := by
      rw [Option.isNone_eq_false_iff, Option.isSome_iff_ne_none]
      exact number
    have passed : host.Passed ret := {
      createPidFile := pid
      parseCsvData := by simpa using parsed
      port := port
      connect := by simpa using connect
      initialSDK := by simpa using initial }
    exact ⟨passed, opened, by simpa using quiet⟩
  · rintro ⟨⟨pid, parsed, port, connect, initial⟩, opened, quiet⟩
    rw [Option.isNone_eq_false_iff, Option.isSome_iff_ne_none] at port
    exact ⟨by simpa using quiet, opened, by simpa using initial, by simpa using connect, port, by simpa using parsed,
      pid⟩

/-- A port that `Open` reports as open is normal. -/
theorem openPort_normal {tty : Tty} {behind : Behind} {isnormal : Int32} {baundrate databite stopbite : UInt32}
    {parity : UInt8} {opened : Opened}
    (opens : tty.openPort behind isnormal baundrate databite stopbite parity = .ok opened)
    (open_ : ¬ opened.code < 0) : opened.isnormal ≠ uartFalse := by
  unfold Tty.openPort at opens
  split at opens
  · cases opens
    exact absurd (by decide : uartFalse < 0) open_
  · rcases exists_of_map_eq_ok opens with ⟨result, -, rfl⟩
    intro failed
    have code : result.code = uartFalse := failed
    apply open_
    change result.code < 0
    rw [code]
    decide

namespace Program

variable {world : World} {runDirectory : RunDirectory} {permitted : MainLoop.Event -> Drain -> Prop}
  {events : List MainLoop.Event} {program after : Program}

/-- The steps of the program under a condition on the event and the ring behind it. -/
def permittedStep (world : World) (permitted : MainLoop.Event -> Drain -> Prop) :
    Program -> MainLoop.Event -> Program -> Prop :=
  Guarded (step world) (fun _ event after => permitted event after.main.drain)

/-- What the start has come to, stage by stage. -/
def Came (world : World) (runDirectory : RunDirectory) (program : Program) : Stage -> Prop
  | .createPidFile =>
      program.runDirectory = runDirectory ∧ program.dbCfg = .constructed ∧ program.operate = .constructed ∧
        program.main.dataBase = .empty
  | .parseCsvData =>
      program.dbCfg = .constructed ∧ program.operate = .constructed ∧ program.main.dataBase = .empty ∧
        (program.main.serviceRun = true -> ¬ (world.pid.createPidFile runDirectory).1 < 0)
  | .connectDataBase =>
      exists parsed, world.Parses parsed program.dbCfg ∧ program.operate = .constructed ∧
        program.main.dataBase = .empty ∧
        (program.main.serviceRun = true -> ¬ (world.pid.createPidFile runDirectory).1 < 0 ∧ parsed = true)
  | .initialSDK =>
      exists parsed ret, world.Parses parsed program.dbCfg ∧ program.operate = .constructed ∧
        (world.host runDirectory parsed program.dbCfg 0).connect = .ok (ret, program.main.dataBase) ∧
        (program.main.serviceRun = true -> ¬ (world.pid.createPidFile runDirectory).1 < 0 ∧ parsed = true ∧
          (strToUint program.dbCfg.dbCfg.dbPort).isNone = false ∧ ret = true)
  | .camera i cameraNum =>
      exists parsed ret loaded, world.Parses parsed program.dbCfg ∧
        (world.host runDirectory parsed program.dbCfg 0).connect = .ok (ret, loaded) ∧
        cameraNum = loaded.getCameraNum ∧ i ≤ cameraNum ∧
        (List.range i).foldlM (Subscribing.round world.sdk) { dataBase := loaded, operate := .constructed } =
          .ok { dataBase := program.main.dataBase, operate := program.operate } ∧
        (program.main.serviceRun = true -> (world.host runDirectory parsed program.dbCfg 0).Passed ret)
  | .openPort =>
      exists parsed ret loaded, world.Parses parsed program.dbCfg ∧
        (world.host runDirectory parsed program.dbCfg 0).connect = .ok (ret, loaded) ∧
        (world.host runDirectory parsed program.dbCfg 0).subscribe world.sdk =
          .ok { dataBase := program.main.dataBase, operate := program.operate } ∧
        (program.main.serviceRun = true -> (world.host runDirectory parsed program.dbCfg 0).Passed ret)
  | _ => True

/-- The loop is where it is on its own when it begins with what the start leaves. -/
def Serves (world : World) (runDirectory : RunDirectory) (permitted : MainLoop.Event -> Drain -> Prop)
    (events : List MainLoop.Event) (program : Program) : Prop :=
  exists parsed opened started loopEvents,
    world.Parses parsed program.dbCfg ∧
    (world.host runDirectory parsed program.dbCfg (Opened.code opened)).startup = .ok started ∧
    Journal (Session world.sdk) (started.logins.map Prod.snd) program.operate.calls ∧
    Run (MainLoop.permittedStep world.localtimeR permitted) (MainLoop.start started.dataBase opened.isnormal) loopEvents
      program.main ∧
    MainLoop.arrivals loopEvents = MainLoop.arrivals events ∧
    (started.serviceRun = true -> opened.isnormal ≠ uartFalse) ∧
    (started.serviceRun = false -> program.main.Idle)

/-- What holds at every point of a run. -/
structure Sound (world : World) (runDirectory : RunDirectory) (permitted : MainLoop.Event -> Drain -> Prop)
    (events : List MainLoop.Event) (program : Program) : Prop where
  waits : program.stage.inStart = true -> MainLoop.Waiting world.localtimeR permitted events program.main
  came : Came world runDirectory program program.stage
  serves : program.stage.inStart = false -> Serves world runDirectory permitted events program

/-- As long as the loop has not been entered there is nothing to say of it. -/
theorem Sound.of_inStart (inStart : program.stage.inStart = true)
    (waits : MainLoop.Waiting world.localtimeR permitted events program.main)
    (came : Came world runDirectory program program.stage) : Sound world runDirectory permitted events program where
  waits := fun _ => waits
  came := came
  serves := by
    intro past
    rw [inStart] at past
    cases past

theorem Sound.start (world : World) (runDirectory : RunDirectory) (permitted : MainLoop.Event -> Drain -> Prop) :
    Sound world runDirectory permitted [] (Program.start runDirectory) :=
  .of_inStart rfl ⟨[], fun _ member => absurd member List.not_mem_nil, .nil, rfl⟩ ⟨rfl, rfl, rfl, rfl⟩

/-- The start does not look at what the environment changes. -/
theorem Came.step {main : MainLoop} (table : main.dataBase = program.main.dataBase)
    (running : main.serviceRun = true -> program.main.serviceRun = true) {stage : Stage}
    (came : Came world runDirectory program stage) : Came world runDirectory { program with main := main } stage := by
  cases stage with
  | createPidFile => exact ⟨came.1, came.2.1, came.2.2.1, table.trans came.2.2.2⟩
  | parseCsvData =>
      rcases came with ⟨config, calls, empty, code⟩
      exact ⟨config, calls, table.trans empty, fun runs => code (running runs)⟩
  | connectDataBase =>
      rcases came with ⟨parsed, parses, calls, empty, code⟩
      exact ⟨parsed, parses, calls, table.trans empty, fun runs => code (running runs)⟩
  | initialSDK =>
      rcases came with ⟨parsed, ret, parses, calls, connected, code⟩
      exact ⟨parsed, ret, parses, calls, table ▸ connected, fun runs => code (running runs)⟩
  | camera i cameraNum =>
      rcases came with ⟨parsed, ret, loaded, parses, connected, number, most, looped, code⟩
      exact ⟨parsed, ret, loaded, parses, connected, number, most, table ▸ looped,
        fun runs => code (running runs)⟩
  | openPort =>
      rcases came with ⟨parsed, ret, loaded, parses, connected, looped, code⟩
      exact ⟨parsed, ret, loaded, parses, connected, table ▸ looped, fun runs => code (running runs)⟩
  | loop => trivial
  | remove => trivial
  | close => trivial
  | deinitialSDK => trivial
  | returned code => trivial

/-- An event of the environment is one of the loop, wherever `main` is. -/
theorem step_other {event : MainLoop.Event} (stepped : step world program event after) (other : event.ofMain = false) :
    exists main, MainLoop.step world.localtimeR program.main event main ∧ after = { program with main := main } := by
  cases event with
  | main outcome => cases other
  | callback call =>
      rcases exists_of_map_eq_ok stepped with ⟨main, called, rfl⟩
      exact ⟨main, called, rfl⟩
  | transmit number =>
      cases stepped
      exact ⟨_, rfl, rfl⟩
  | sigterm =>
      cases stepped
      exact ⟨_, rfl, rfl⟩

theorem Sound.step_other {event : MainLoop.Event} (sound : Sound world runDirectory permitted events program)
    (stepped : permittedStep world permitted program event after) (other : event.ofMain = false) :
    Sound world runDirectory permitted (events ++ [event]) after := by
  rcases stepped with ⟨stepped, allowed⟩
  rcases Program.step_other stepped other with ⟨main, loopStep, rfl⟩
  rcases MainLoop.step_frame loopStep other with ⟨table, -, running⟩
  refine ⟨?_, sound.came.step table running, ?_⟩
  · intro inStart
    exact (sound.waits inStart).step ⟨loopStep, allowed⟩ other
  · intro past
    rcases sound.serves past with
      ⟨parsed, opened, started, loopEvents, parses, starts, journal, run, same, normal, idle⟩
    refine ⟨parsed, opened, started, loopEvents ++ [event], parses, starts, journal,
      run.snoc ⟨loopStep, allowed⟩, ?_, normal, fun stopped => (idle stopped).step loopStep⟩
    rw [MainLoop.arrivals_append, MainLoop.arrivals_append, same]

/-- The pid file.  What has failed stops the service. -/
theorem createPidFile_sound (calm : Calm permitted)
    (waiting : MainLoop.Waiting world.localtimeR permitted events program.main)
    (came : Came world runDirectory program .createPidFile) :
    Sound world runDirectory permitted events (program.createPidFile world) := by
  rcases came with ⟨same, config, calls, empty⟩
  have frame := program.main.stopIf_frame (decide ((world.pid.createPidFile program.runDirectory).1 < 0))
  refine .of_inStart rfl (waiting.stopIf calm _) ⟨config, calls, frame.1.trans empty, ?_⟩
  intro running
  rw [← same]
  exact of_decide_eq_false (frame.2.2 running).2

/-- The configuration. -/
theorem parseCsvData_sound (calm : Calm permitted)
    (waiting : MainLoop.Waiting world.localtimeR permitted events program.main)
    (came : Came world runDirectory program .parseCsvData)
    (parsing : program.parseCsvData world = .ok after) : Sound world runDirectory permitted events after := by
  rcases came with ⟨config, calls, empty, code⟩
  rw [parseCsvData, config] at parsing
  split at parsing
  · cases parsing
  · rename_i parsed dbCfg parses
    cases parsing
    have frame := program.main.stopIf_frame (!parsed)
    refine .of_inStart rfl (waiting.stopIf calm _) ⟨parsed, parses, calls, frame.1.trans empty, ?_⟩
    intro running
    exact ⟨code (frame.2.2 running).1, by simpa using (frame.2.2 running).2⟩

/-- The table. -/
theorem connectDataBase_sound (calm : Calm permitted)
    (waiting : MainLoop.Waiting world.localtimeR permitted events program.main)
    (came : Came world runDirectory program .connectDataBase)
    (connecting : program.connectDataBase world = .ok after) : Sound world runDirectory permitted events after := by
  rcases came with ⟨parsed, parses, calls, empty, code⟩
  rcases exists_of_map_eq_ok connecting with ⟨⟨ret, dataBase⟩, connected, rfl⟩
  rw [empty] at connected
  have frame := (program.main.withTable dataBase).stopIf_frame
    ((strToUint program.dbCfg.dbCfg.dbPort).isNone || !ret)
  refine .of_inStart rfl ((waiting.withTable dataBase).stopIf calm _) ⟨parsed, ret, parses, calls, ?_, ?_⟩
  · rw [frame.1]
    exact connected
  · intro running
    rcases frame.2.2 running with ⟨before, passed⟩
    rw [Bool.or_eq_false_iff] at passed
    exact ⟨(code before).1, (code before).2, passed.1, by simpa using passed.2⟩

/-- The SDK. -/
theorem initialSDK_sound (calm : Calm permitted)
    (waiting : MainLoop.Waiting world.localtimeR permitted events program.main)
    (came : Came world runDirectory program .initialSDK) :
    Sound world runDirectory permitted events (program.initialSDK world) := by
  rcases came with ⟨parsed, ret, parses, calls, connected, code⟩
  have frame := program.main.stopIf_frame world.initFails
  refine .of_inStart rfl (waiting.stopIf calm _)
    ⟨parsed, ret, program.main.dataBase, parses, connected, rfl, Nat.zero_le _, ?_, ?_⟩
  · have unchanged : ({ dataBase := (program.main.stopIf world.initFails).dataBase, operate := program.operate } :
        Subscribing) = { dataBase := program.main.dataBase, operate := .constructed } := by
      rw [frame.1, calls]
    exact congrArg Except.ok unchanged.symm
  · intro running
    rcases frame.2.2 running with ⟨before, passed⟩
    rcases code before with ⟨pid, config, port, loaded⟩
    exact ⟨pid, config, port, loaded, by rw [World.host, passed]; rfl⟩

/-- A round of the login loop, or its end. -/
theorem camera_sound {i cameraNum : Nat}
    (waiting : MainLoop.Waiting world.localtimeR permitted events program.main)
    (came : Came world runDirectory program (.camera i cameraNum))
    (turn : program.camera world i cameraNum = .ok after) : Sound world runDirectory permitted events after := by
  rcases came with ⟨parsed, ret, loaded, parses, connected, number, most, looped, code⟩
  rw [camera] at turn
  split at turn
  · rename_i more
    rcases exists_of_map_eq_ok turn with ⟨cameras, rounded, rfl⟩
    refine .of_inStart rfl (waiting.withTable cameras.dataBase)
      ⟨parsed, ret, loaded, parses, connected, number, more, ?_, code⟩
    rw [List.range_succ, List.foldlM_append, looped]
    change [i].foldlM (Subscribing.round world.sdk) _ = _
    rw [List.foldlM_cons, rounded]
    rfl
  · rename_i last
    cases turn
    have all : i = loaded.getCameraNum := by omega
    refine .of_inStart rfl waiting ⟨parsed, ret, loaded, parses, connected, ?_, code⟩
    rw [Host.subscribe, connected, ok_bind, ← all]
    exact looped

/-- The port is the last step, and what has been done is a start. -/
theorem openPort_sound (calm : Calm permitted)
    (waiting : MainLoop.Waiting world.localtimeR permitted events program.main)
    (came : Came world runDirectory program .openPort)
    (opening : program.openPort world = .ok after) : Sound world runDirectory permitted events after := by
  rcases came with ⟨parsed, ret, loaded, parses, connected, subscribed, code⟩
  rcases exists_of_map_eq_ok opening with ⟨opened, opens, rfl⟩
  have frame := (program.main.withPort opened.isnormal).stopIf_frame (decide (opened.code < 0))
  rcases (subscribe_alike (world.host runDirectory parsed program.dbCfg opened.code) world.sdk).exists_first
    subscribed with ⟨started, starts, table, journal⟩
  have entered := (waiting.withPort opened.isnormal).stopIf calm (decide (opened.code < 0))
  rcases entered.untouched with ⟨untouched, ring⟩
  rcases entered with ⟨foreign, all, run, same⟩
  rw [frame.1, frame.2.1] at run
  have runs : started.serviceRun = true ↔
      (world.host runDirectory parsed program.dbCfg opened.code).Passed ret ∧ ¬ opened.code < 0 ∧ false = false :=
    Host.startup_running connected starts
  refine ⟨fun starts => (by cases starts), trivial,
    fun _ => ⟨parsed, opened, started, foreign, parses, starts, journal, table ▸ run, same, ?_, ?_⟩⟩
  · intro running
    exact openPort_normal opens (runs.mp running).2.1
  · intro stopped
    refine ⟨untouched, ?_, Or.inl ring⟩
    by_contra running
    rcases frame.2.2 (Bool.eq_true_of_not_eq_false running) with ⟨before, open_⟩
    have passed := code before
    have again : (world.host runDirectory parsed program.dbCfg opened.code).Passed ret := {
      createPidFile := passed.createPidFile
      parseCsvData := passed.parseCsvData
      port := passed.port
      connect := passed.connect
      initialSDK := passed.initialSDK }
    have started_runs := runs.mpr ⟨again, of_decide_eq_false open_, rfl⟩
    rw [stopped] at started_runs
    cases started_runs

/-- A step of the start stays in the start or enters the loop. -/
theorem Sound.step_start (calm : Calm permitted) {outcome : WriteOutcome}
    (sound : Sound world runDirectory permitted events program) (inStart : program.stage.inStart = true)
    (moved : program.next world outcome = .ok after) :
    Sound world runDirectory permitted (events ++ [.main outcome]) after := by
  have waiting := (sound.waits inStart).pass outcome
  have came := sound.came
  unfold next at moved
  cases here : program.stage with
  | createPidFile =>
      rw [here] at moved came
      cases moved
      exact createPidFile_sound calm waiting came
  | parseCsvData =>
      rw [here] at moved came
      exact parseCsvData_sound calm waiting came moved
  | connectDataBase =>
      rw [here] at moved came
      exact connectDataBase_sound calm waiting came moved
  | initialSDK =>
      rw [here] at moved came
      cases moved
      exact initialSDK_sound calm waiting came
  | camera i cameraNum =>
      rw [here] at moved came
      exact camera_sound waiting came moved
  | openPort =>
      rw [here] at moved came
      exact openPort_sound calm waiting came moved
  | loop => rw [here] at inStart; cases inStart
  | remove => rw [here] at inStart; cases inStart
  | close => rw [here] at inStart; cases inStart
  | deinitialSDK => rw [here] at inStart; cases inStart
  | returned code => rw [here] at inStart; cases inStart

/-- A turn of the loop is a step of it, or the way out. -/
theorem serve_cases {outcome : WriteOutcome} (served : program.serve world outcome = .ok after) :
    (program.main.task = .exited 0 ∧ after = { program with stage := .remove }) ∨
      (exists code, code ≠ 0 ∧ program.main.task = .exited code ∧
        after = { program with stage := .returned code, closed := program.closed ++ [program.fd] }) ∨
      exists main, (forall code, program.main.task ≠ .exited code) ∧
        program.main.next world.localtimeR outcome = .ok main ∧ after = { program with main := main } := by
  unfold serve at served
  split at served
  · rename_i task
    exact Or.inl ⟨task, (Except.ok.inj served).symm⟩
  · rename_i code other task
    exact Or.inr (Or.inl ⟨code, other, task, (Except.ok.inj served).symm⟩)
  · rename_i running
    rcases exists_of_map_eq_ok served with ⟨main, stepped, same⟩
    exact Or.inr (Or.inr ⟨main, running, stepped, same.symm⟩)

/-- What a step of `main` in or behind the loop does. -/
theorem next_past {outcome : WriteOutcome} (past : program.stage.inStart = false)
    (moved : program.next world outcome = .ok after) :
    after.stage.inStart = false ∧ after.dbCfg = program.dbCfg ∧ after.operate = program.operate ∧
      (after.main = program.main ∨
        program.stage = .loop ∧ program.main.next world.localtimeR outcome = .ok after.main) := by
  cases here : program.stage with
  | loop =>
      rw [next, here] at moved
      rcases serve_cases moved with ⟨-, rfl⟩ | ⟨code, -, -, rfl⟩ | ⟨main, -, stepped, rfl⟩
      · exact ⟨rfl, rfl, rfl, Or.inl rfl⟩
      · exact ⟨rfl, rfl, rfl, Or.inl rfl⟩
      · exact ⟨past, rfl, rfl, Or.inr ⟨rfl, stepped⟩⟩
  | remove =>
      rw [next, here] at moved
      cases moved
      exact ⟨rfl, rfl, rfl, Or.inl rfl⟩
  | close =>
      rw [next, here] at moved
      cases moved
      exact ⟨rfl, rfl, rfl, Or.inl rfl⟩
  | deinitialSDK =>
      rw [next, here] at moved
      cases moved
      exact ⟨rfl, rfl, rfl, Or.inl rfl⟩
  | returned code =>
      rw [next, here] at moved
      cases moved
      exact ⟨past, rfl, rfl, Or.inl rfl⟩
  | createPidFile => rw [here] at past; cases past
  | parseCsvData => rw [here] at past; cases past
  | connectDataBase => rw [here] at past; cases past
  | initialSDK => rw [here] at past; cases past
  | camera i cameraNum => rw [here] at past; cases past
  | openPort => rw [here] at past; cases past

/-- A step behind the start is one of the loop, or leaves it alone. -/
theorem Sound.step_past {outcome : WriteOutcome} (sound : Sound world runDirectory permitted events program)
    (past : program.stage.inStart = false)
    (stepped : permittedStep world permitted program (.main outcome) after) :
    Sound world runDirectory permitted (events ++ [.main outcome]) after := by
  rcases stepped with ⟨stepped, allowed⟩
  rcases next_past past stepped with ⟨still, config, calls, moved⟩
  have none_new : MainLoop.arrivals (events ++ [.main outcome]) = MainLoop.arrivals events := by
    rw [MainLoop.arrivals_append]
    exact List.append_nil _
  refine ⟨fun inStart => absurd (still.symm.trans inStart) Bool.false_ne_true, ?_, fun _ => ?_⟩
  · cases here : after.stage with
    | loop => trivial
    | remove => trivial
    | close => trivial
    | deinitialSDK => trivial
    | returned code => trivial
    | createPidFile => rw [here] at still; cases still
    | parseCsvData => rw [here] at still; cases still
    | connectDataBase => rw [here] at still; cases still
    | initialSDK => rw [here] at still; cases still
    | camera i cameraNum => rw [here] at still; cases still
    | openPort => rw [here] at still; cases still
  · rcases sound.serves past with
      ⟨parsed, opened, started, loopEvents, parses, starts, journal, run, same, normal, idle⟩
    rw [Serves, config, calls, none_new]
    rcases moved with unchanged | ⟨-, next⟩
    · rw [unchanged]
      exact ⟨parsed, opened, started, loopEvents, parses, starts, journal, run, same, normal, idle⟩
    · have loopStep : MainLoop.step world.localtimeR program.main (.main outcome) after.main := next
      refine ⟨parsed, opened, started, loopEvents ++ [.main outcome], parses, starts, journal,
        run.snoc ⟨loopStep, allowed⟩, ?_, normal, fun stopped => (idle stopped).step loopStep⟩
      rw [MainLoop.arrivals_append, same]
      exact List.append_nil _

theorem Sound.step (calm : Calm permitted) {event : MainLoop.Event}
    (sound : Sound world runDirectory permitted events program)
    (stepped : permittedStep world permitted program event after) :
    Sound world runDirectory permitted (events ++ [event]) after := by
  cases other : event.ofMain with
  | false => exact sound.step_other stepped other
  | true =>
      cases event with
      | callback call => cases other
      | transmit number => cases other
      | sigterm => cases other
      | main outcome =>
          cases inStart : program.stage.inStart with
          | true => exact sound.step_start calm inStart stepped.1
          | false => exact sound.step_past inStart stepped

theorem Sound.of_run (calm : Calm permitted)
    (run : Run (permittedStep world permitted) (Program.start runDirectory) events program) :
    Sound world runDirectory permitted events program :=
  run.invariant_history (Sound world runDirectory permitted) (Sound.start world runDirectory permitted)
    (fun _ _ _ _ sound stepped => sound.step calm stepped)

end Program

end Service
end MotionDetectAlarm
