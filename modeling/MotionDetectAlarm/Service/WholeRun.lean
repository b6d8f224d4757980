import MotionDetectAlarm.Service.Lifecycle
import MotionDetectAlarm.Service.Safety

namespace MotionDetectAlarm
namespace Service

open Foundation DataBase HikDev SerialPort

/-!
# Whole runs of the program

What a maintainer wants to know of the program as a whole: which loop it comes to
and with which table, that it returns, what it leaves behind then, and what a
start that fails does not do.
-/

/-- Where a connection is made and the query gives a result, it is this one. -/
def World.Answers (world : World) (tables : ResultSet) : Prop :=
  forall ip userName password dbName port session others,
    world.client.realConnect ip userName password dbName port = some session ->
      session.storeResult = some others -> others = tables

/-- A start in which every step has succeeded leaves a loaded table. -/
theorem Host.startup_loaded {host : Host} {started : Startup} (run : host.startup = .ok started)
    (running : started.serviceRun = true) :
    exists ip userName password dbName port session tables,
      host.client.realConnect ip userName password dbName port = some session ∧ session.storeResult = some tables ∧
        started.dataBase.Holds tables.loaded := by
  rcases Host.startup_cases run with ⟨ret, dataBase, logins, connected, looped, -, table, -, failed⟩
  have connects : ret = true := by
    by_contra refused
    rw [failed (Bool.eq_false_of_not_eq_true refused)] at running
    cases running
  rcases connectDataBase_cases connected with early | ⟨session, made, loaded⟩
  · cases early
    cases connects
  · cases connects
    rcases getCameraInfoFromDB_true loaded.symm with ⟨_, tables, same, stored, result⟩
    cases same
    have held := loadResult_holds result
    refine ⟨_, _, _, _, _, session, tables, made, stored, ?_⟩
    rw [table, (loop_sourced held looped).1]
    exact held

namespace Program

variable {world : World} {runDirectory : RunDirectory} {permitted : MainLoop.Event -> Drain -> Prop}
  {events : List MainLoop.Event} {program after : Program}

theorem calm_always : Calm (fun _ _ => True) where
  start := trivial
  keeps := fun _ _ _ => trivial

theorem permitted_of_run (run : Run (step world) (start runDirectory) events program) :
    Run (permittedStep world (fun _ _ => True)) (start runDirectory) events program :=
  run.weaken (fun _ _ _ stepped => ⟨stepped, trivial⟩)

theorem sound_of_run (run : Run (step world) (start runDirectory) events program) :
    Sound world runDirectory (fun _ _ => True) events program :=
  Sound.of_run calm_always (permitted_of_run run)

/-! ## The loop of the program -/

/-- Once the start is over, what the loop works on is what a run of the loop on its
own comes to, from the table that the start leaves and with the same alarms in
the same order.  The calls of the SDK are the sessions of the logins, and a start
that has failed is left at once. -/
theorem refines_loop (calm : Calm permitted)
    (run : Run (permittedStep world permitted) (start runDirectory) events program)
    (past : program.stage.inStart = false) :
    exists parsed opened started loopEvents,
      world.Parses parsed program.dbCfg ∧
      (world.host runDirectory parsed program.dbCfg (Opened.code opened)).startup = .ok started ∧
      Journal (Session world.sdk) (started.logins.map Prod.snd) program.operate.calls ∧
      Run (MainLoop.permittedStep world.localtimeR permitted) (MainLoop.start started.dataBase opened.isnormal) loopEvents
        program.main ∧
      MainLoop.arrivals loopEvents = MainLoop.arrivals events ∧
      (started.serviceRun = true -> opened.isnormal ≠ uartFalse) ∧
      (started.serviceRun = false -> program.main.Idle) :=
  (Sound.of_run calm run).serves past

/-- A world in which every step of the start succeeds, with the table of the lobby. -/
def lobbyWorld : World where
  pid := {
    getpid := 4711
    mkdir := none
    openFile := none
    ftruncate := none
    write := 5
    writeErrno := []
    removeFails := false }
  fopen := fun _ => .ok (ascii "DbIp,DbPort,DbUserName,DbPasswd,DbName,DbTable\n127.0.0.1,3306,root,pw,alarm,cameras\n")
  buffer := fun _ => 0
  client := (hostWith lobby).client
  initFails := false
  sdk := lobbySdk
  cleanupFails := false
  tty := plainPort
  behind := fun _ => some (0, 0)
  localtimeR := firstDayUtc

/-- The steps of the start, with an alarm before the last two of them. -/
def lobbyStart : List MainLoop.Event :=
  List.replicate 6 (.main .full) ++ [.callback MainLoop.lobbyCall] ++ List.replicate 2 (.main .full)

theorem lobby_refines_loop :
    exists program started isnormal loopEvents, Run (step lobbyWorld) (start .missing) lobbyStart program ∧
      program.stage = .loop ∧ program.runDirectory = .holding (ascii "4711\n") ∧
      Run (MainLoop.permittedStep firstDayUtc (fun _ _ => True)) (MainLoop.start (Startup.dataBase started) isnormal)
        loopEvents program.main ∧
      MainLoop.arrivals loopEvents = MainLoop.arrivals lobbyStart := by
  have viewed : (lobbyStart.foldlM (advance lobbyWorld) (start .missing)).map
      (fun program => (program.stage, program.runDirectory)) = .ok (.loop, .holding (ascii "4711\n")) := by
    decide +kernel
  rcases exists_of_map_eq_ok viewed with ⟨program, executed, view⟩
  rw [Prod.mk.injEq] at view
  rcases view with ⟨stage, directory⟩
  have run := Run.of_foldlM executed
  have past : program.stage.inStart = false := by
    rw [stage]
    rfl
  rcases refines_loop calm_always (permitted_of_run run) past with
    ⟨parsed, opened, started, loopEvents, -, -, -, served, same, -⟩
  exact ⟨program, started, opened.isnormal, loopEvents, run, stage, directory, served, same⟩

/-! ## What is left behind -/

/-- What `main` holds at each stage: the pid file, the port and the SDK. -/
def Holding (world : World) (runDirectory : RunDirectory) (program : Program) : Stage -> Prop
  | .createPidFile => program.runDirectory = runDirectory ∧ program.closed = [] ∧ program.sdkReady = false
  | .parseCsvData | .connectDataBase | .initialSDK =>
      program.runDirectory = (world.pid.createPidFile runDirectory).2.2 ∧ program.closed = [] ∧ program.sdkReady = false
  | .camera _ _ | .openPort | .loop =>
      program.runDirectory = (world.pid.createPidFile runDirectory).2.2 ∧ program.closed = [] ∧
        program.sdkReady = !world.initFails
  | .remove =>
      program.main.task = .exited 0 ∧ program.runDirectory = (world.pid.createPidFile runDirectory).2.2 ∧
        program.closed = [] ∧ program.sdkReady = !world.initFails
  | .close =>
      program.main.task = .exited 0 ∧
        program.runDirectory = world.pid.remove (world.pid.createPidFile runDirectory).2.2 ∧ program.closed = [] ∧
          program.sdkReady = !world.initFails
  | .deinitialSDK =>
      program.main.task = .exited 0 ∧
        program.runDirectory = world.pid.remove (world.pid.createPidFile runDirectory).2.2 ∧
          program.closed = [program.fd] ∧ program.sdkReady = !world.initFails
  | .returned code =>
      program.main.task = .exited code ∧
        (code = 0 ->
          program.runDirectory = world.pid.remove (world.pid.createPidFile runDirectory).2.2 ∧
            program.closed = [program.fd, program.fd] ∧ program.sdkReady = (!world.initFails && world.cleanupFails))

/-- The environment leaves all of it alone. -/
theorem Holding.frame {main : MainLoop} (task : main.task = program.main.task) {stage : Stage}
    (holding : Holding world runDirectory program stage) :
    Holding world runDirectory { program with main := main } stage := by
  cases stage with
  | createPidFile => exact holding
  | parseCsvData => exact holding
  | connectDataBase => exact holding
  | initialSDK => exact holding
  | camera i cameraNum => exact holding
  | openPort => exact holding
  | loop => exact holding
  | remove => exact ⟨task.trans holding.1, holding.2⟩
  | close => exact ⟨task.trans holding.1, holding.2⟩
  | deinitialSDK => exact ⟨task.trans holding.1, holding.2⟩
  | returned code => exact ⟨task.trans holding.1, holding.2⟩

theorem Holding.next {outcome : WriteOutcome} (holding : Holding world runDirectory program program.stage)
    (moved : program.next world outcome = .ok after) : Holding world runDirectory after after.stage := by
  unfold Program.next at moved
  cases here : program.stage with
  | createPidFile =>
      rw [here] at moved holding
      rcases holding with ⟨rfl, closed, ready⟩
      cases moved
      exact ⟨rfl, closed, ready⟩
  | parseCsvData =>
      rw [here] at moved holding
      have parsing : program.parseCsvData world = .ok after := moved
      rw [parseCsvData] at parsing
      split at parsing
      · cases parsing
      · cases parsing
        exact holding
  | connectDataBase =>
      rw [here] at moved holding
      rcases exists_of_map_eq_ok moved with ⟨connected, -, rfl⟩
      exact holding
  | initialSDK =>
      rw [here] at moved holding
      cases moved
      exact ⟨holding.1, holding.2.1, rfl⟩
  | camera i cameraNum =>
      rw [here] at moved holding
      have turn : program.camera world i cameraNum = .ok after := moved
      rw [camera] at turn
      split at turn
      · rcases exists_of_map_eq_ok turn with ⟨cameras, -, rfl⟩
        exact holding
      · cases turn
        exact holding
  | openPort =>
      rw [here] at moved holding
      rcases exists_of_map_eq_ok moved with ⟨opened, -, rfl⟩
      exact holding
  | loop =>
      rw [here] at moved holding
      rcases serve_cases moved with ⟨task, rfl⟩ | ⟨code, other, task, rfl⟩ | ⟨main, -, -, rfl⟩
      · exact ⟨task, holding⟩
      · exact ⟨task, fun zero => absurd zero other⟩
      · rw [here]
        exact holding
  | remove =>
      rw [here] at moved holding
      rcases holding with ⟨task, directory, closed, ready⟩
      cases moved
      exact ⟨task, congrArg world.pid.remove directory, closed, ready⟩
  | close =>
      rw [here] at moved holding
      rcases holding with ⟨task, directory, closed, ready⟩
      cases moved
      exact ⟨task, directory, by rw [closed]; rfl, ready⟩
  | deinitialSDK =>
      rw [here] at moved holding
      rcases holding with ⟨task, directory, closed, ready⟩
      cases moved
      exact ⟨task, fun _ => ⟨directory, by rw [closed]; rfl, by rw [ready]⟩⟩
  | returned code =>
      rw [here] at moved holding
      cases moved
      rw [here]
      exact holding

theorem Holding.of_run (run : Run (step world) (start runDirectory) events program) :
    Holding world runDirectory program program.stage := by
  refine run.invariant (fun program => Holding world runDirectory program program.stage) ?_ ?_
  · exact ⟨rfl, rfl, rfl⟩
  intro before event after holding stepped
  cases other : event.ofMain with
  | false =>
      rcases step_other stepped other with ⟨main, loopStep, rfl⟩
      exact holding.frame (MainLoop.step_other loopStep other).2.2
  | true =>
      cases event with
      | callback call => cases other
      | transmit number => cases other
      | sigterm => cases other
      | main outcome => exact holding.next stepped

/-- Behind the start the loop is idle, or works on a loaded table. -/
theorem loop_cases (run : Run (step world) (start runDirectory) events program)
    (past : program.stage.inStart = false) :
    program.main.Idle ∨
      exists ip userName password dbName port session tables,
        world.client.realConnect ip userName password dbName port = some session ∧ session.storeResult = some tables ∧
          MainLoop.Ready tables.loaded program.main := by
  rcases (sound_of_run run).serves past with
    ⟨parsed, opened, started, loopEvents, -, starts, -, served, -, -, idle⟩
  cases running : started.serviceRun with
  | false => exact Or.inl (idle running)
  | true =>
      rcases Host.startup_loaded starts running with ⟨_, _, _, _, _, session, tables, made, stored, held⟩
      refine Or.inr ⟨_, _, _, _, _, session, tables, made, stored, ?_⟩
      exact served.invariant (MainLoop.Ready tables.loaded) (MainLoop.Ready.start held opened.isnormal)
        (fun _ _ _ ready stepped => ready.step stepped.1)

/-- A program returns 0 only. -/
theorem returned_code (run : Run (step world) (start runDirectory) events program) {code : Int}
    (ended : program.stage = .returned code) : code = 0 := by
  have holding := Holding.of_run run
  rw [ended] at holding
  have past : program.stage.inStart = false := by
    rw [ended]
    rfl
  rcases loop_cases run past with idle | ⟨_, _, _, _, _, session, tables, made, stored, ready⟩
  · rcases idle.task with ring | exited
    · cases ring.symm.trans holding.1
    · exact Task.exited.inj (holding.1.symm.trans exited)
  · have progress := ready.announced.progress
    rw [holding.1] at progress
    exact progress.1

/-- A program that has returned has returned 0.  It has removed its pid file,
closed its port (twice, with the destructor) and cleaned the SDK up, it was at the
head of its loop, and every alarm that it had taken up has been announced. -/
theorem returned (run : Run (step world) (start runDirectory) events program) {code : Int}
    (ended : program.stage = .returned code) :
    code = 0 ∧ program.runDirectory = world.pid.remove (world.pid.createPidFile runDirectory).2.2 ∧
      program.closed = [program.fd, program.fd] ∧ program.sdkReady = (!world.initFails && world.cleanupFails) ∧
      program.main.drain.pass = .head ∧
      forall tables, world.Answers tables ->
        program.main.calls = program.main.drain.presented.flatMap (announce tables.loaded) := by
  have zero := returned_code run ended
  have holding := Holding.of_run run
  rw [ended] at holding
  rcases holding with ⟨task, left⟩
  rcases left zero with ⟨directory, closed, sdk⟩
  have past : program.stage.inStart = false := by
    rw [ended]
    rfl
  refine ⟨zero, directory, closed, sdk, ?_⟩
  rcases loop_cases run past with idle | ⟨_, _, _, _, _, session, tables, made, stored, ready⟩
  · refine ⟨idle.head, ?_⟩
    intro tables _
    rw [idle.calls, idle.presented, List.flatMap_nil]
  · have progress := ready.announced.progress
    rw [task] at progress
    refine ⟨(ready.returned code task).1, ?_⟩
    intro others answers
    cases answers _ _ _ _ _ _ _ made stored
    exact progress.2

/-- The alarm of the start is announced, the signal comes, and the program returns. -/
def lobbyDay : List MainLoop.Event :=
  (lobbyStart ++ List.replicate 9 (.main .full)) ++ .sigterm :: List.replicate 300 (.main .full)

theorem lobbyWorld_answers : lobbyWorld.Answers lobby := by
  intro ip userName password dbName port session others made stored
  cases made
  cases stored
  rfl

theorem lobbyDay_run :
    exists program, Run (step lobbyWorld) (start .missing) lobbyDay program ∧ program.stage = .returned 0 ∧
      program.fd = 3 := by
  have viewed : (lobbyDay.foldlM (advance lobbyWorld) (start .missing)).map
      (fun program => (program.stage, program.fd)) = .ok (.returned 0, 3) := by
    decide +kernel
  rcases exists_of_map_eq_ok viewed with ⟨program, executed, view⟩
  rw [Prod.mk.injEq] at view
  exact ⟨program, Run.of_foldlM executed, view.1, view.2⟩

theorem lobby_returned :
    exists program, Run (step lobbyWorld) (start .missing) lobbyDay program ∧ program.stage = .returned 0 ∧
      program.runDirectory = .empty ∧ program.closed = [3, 3] ∧ program.sdkReady = false ∧
      program.main.calls = program.main.drain.presented.flatMap (announce lobby.loaded) := by
  rcases lobbyDay_run with ⟨program, run, stage, fd⟩
  rcases returned run stage with ⟨-, directory, closed, sdk, -, calls⟩
  refine ⟨program, run, stage, ?_, ?_, sdk, calls lobby lobbyWorld_answers⟩
  · rw [directory]
    decide
  · rw [closed, fd]

/-! ## The pid file -/

/-- A loop that has anything to do follows a start with a pid file. -/
theorem named_of_serving (run : Run (step world) (start runDirectory) events program)
    (past : program.stage.inStart = false) (serving : program.main.serviceRun = true ∨ program.main.calls ≠ []) :
    ¬ (world.pid.createPidFile runDirectory).1 < 0 := by
  rcases (sound_of_run run).serves past with ⟨parsed, opened, started, _, -, starts, -, -, -, -, idle⟩
  have running : started.serviceRun = true := by
    by_contra stopped
    have untouched := idle (Bool.eq_false_of_not_eq_true stopped)
    rcases serving with runs | announced
    · rw [untouched.stopped] at runs
      cases runs
    · exact announced untouched.calls
  rcases Host.startup_cases starts with ⟨ret, dataBase, _, connected, -⟩
  exact ((Host.startup_running connected starts).mp running).1.createPidFile

/-- As long as a service that runs, or that has announced an alarm, is in its loop,
whoever reads its pid file up to the line feed gets the number of its process. -/
theorem pid_file_in_place (process : 0 ≤ world.pid.getpid) (run : Run (step world) (start runDirectory) events program)
    (inLoop : program.stage = .loop) (serving : program.main.serviceRun = true ∨ program.main.calls ≠ []) :
    exists pidFile, program.runDirectory = .holding pidFile ∧
      numeralValue (pidFile.takeWhile (fun byte => byte ≠ 0x0A)) = some world.pid.getpid.toInt.toNat := by
  have past : program.stage.inStart = false := by
    rw [inLoop]
    rfl
  have holding := Holding.of_run run
  rw [inLoop] at holding
  rcases createPidFile_cases world.pid runDirectory with created | ⟨text, left, failed⟩
  · refine ⟨pidText world.pid.getpid, ?_, pidText_reads_back process⟩
    rw [holding.1, created]
  · have named := named_of_serving run past serving
    rw [failed] at named
    exact absurd (show (-1 : Int32) < 0 by decide) named

theorem lobby_pid_file :
    exists program pidFile, Run (step lobbyWorld) (start .missing) lobbyStart program ∧
      program.runDirectory = .holding pidFile ∧
      numeralValue (pidFile.takeWhile (fun byte => byte ≠ 0x0A)) = some 4711 := by
  have viewed : (lobbyStart.foldlM (advance lobbyWorld) (start .missing)).map
      (fun program => (program.stage, program.main.serviceRun)) = .ok (.loop, true) := by
    decide +kernel
  rcases exists_of_map_eq_ok viewed with ⟨program, executed, view⟩
  rw [Prod.mk.injEq] at view
  have run := Run.of_foldlM executed
  rcases pid_file_in_place (by decide) run view.1 (Or.inl view.2) with ⟨pidFile, directory, read⟩
  exact ⟨program, pidFile, run, directory, read⟩

/-! ## A service that is stopped during the start -/

/-- What a step of the start does to the state of the loop. -/
theorem next_start {outcome : WriteOutcome} (inStart : program.stage.inStart = true)
    (moved : program.next world outcome = .ok after) :
    exists dataBase isnormal failed,
      after.main = ((program.main.withTable dataBase).withPort isnormal).stopIf failed := by
  unfold next at moved
  cases here : program.stage with
  | createPidFile =>
      rw [here] at moved
      cases moved
      exact ⟨program.main.dataBase, program.main.msgModuleCom.isnormal, _, rfl⟩
  | parseCsvData =>
      rw [here] at moved
      have parsing : program.parseCsvData world = .ok after := moved
      rw [parseCsvData] at parsing
      split at parsing
      · cases parsing
      · cases parsing
        exact ⟨program.main.dataBase, program.main.msgModuleCom.isnormal, _, rfl⟩
  | connectDataBase =>
      rw [here] at moved
      rcases exists_of_map_eq_ok moved with ⟨⟨ret, dataBase⟩, -, rfl⟩
      exact ⟨dataBase, program.main.msgModuleCom.isnormal, _, rfl⟩
  | initialSDK =>
      rw [here] at moved
      cases moved
      exact ⟨program.main.dataBase, program.main.msgModuleCom.isnormal, _, rfl⟩
  | camera i cameraNum =>
      rw [here] at moved
      have turn : program.camera world i cameraNum = .ok after := moved
      rw [camera] at turn
      split at turn
      · rcases exists_of_map_eq_ok turn with ⟨cameras, -, rfl⟩
        exact ⟨cameras.dataBase, program.main.msgModuleCom.isnormal, false, rfl⟩
      · cases turn
        exact ⟨program.main.dataBase, program.main.msgModuleCom.isnormal, false, rfl⟩
  | openPort =>
      rw [here] at moved
      rcases exists_of_map_eq_ok moved with ⟨opened, -, rfl⟩
      exact ⟨program.main.dataBase, opened.isnormal, _, rfl⟩
  | loop => rw [here] at inStart; cases inStart
  | remove => rw [here] at inStart; cases inStart
  | close => rw [here] at inStart; cases inStart
  | deinitialSDK => rw [here] at inStart; cases inStart
  | returned code => rw [here] at inStart; cases inStart

/-- A stopped service stays idle, whatever step is taken. -/
theorem idle_step {event : MainLoop.Event} (idle : program.main.Idle) (stepped : step world program event after) :
    after.main.Idle := by
  cases other : event.ofMain with
  | false =>
      rcases step_other stepped other with ⟨main, loopStep, rfl⟩
      exact idle.step loopStep
  | true =>
      cases event with
      | callback call => cases other
      | transmit number => cases other
      | sigterm => cases other
      | main outcome =>
          have moved : program.next world outcome = .ok after := stepped
          cases inStart : program.stage.inStart with
          | true =>
              rcases next_start inStart moved with ⟨dataBase, isnormal, failed, same⟩
              rw [same]
              cases failed with
              | false => exact ⟨⟨idle.head, idle.released, idle.presented, idle.calls, idle.commands, idle.queue,
                  idle.transmitted⟩, idle.stopped, idle.task⟩
              | true => exact ⟨⟨idle.head, idle.released, idle.presented, idle.calls, idle.commands, idle.queue,
                  idle.transmitted⟩, rfl, idle.task⟩
          | false =>
              rcases next_past inStart moved with ⟨-, -, -, unchanged | ⟨-, next⟩⟩
              · rw [unchanged]
                exact idle
              · have loopStep : MainLoop.step world.localtimeR program.main (.main outcome) after.main := next
                exact idle.step loopStep

/-- When the service is stopped during the start, by a step that fails or by the
signal, no alarm is ever announced and nothing is ever written to the port. -/
theorem stopped_start_silent {later : List MainLoop.Event} {stopped : Program}
    (run : Run (step world) (start runDirectory) events stopped) (inStart : stopped.stage.inStart = true)
    (cleared : stopped.main.serviceRun = false) (rest : Run (step world) stopped later program) :
    program.main.calls = [] ∧ program.main.commands = [] ∧ program.main.msgModuleCom.queue = [] ∧
      program.main.msgModuleCom.transmitted = [] := by
  rcases ((sound_of_run run).waits inStart).untouched with ⟨untouched, ring⟩
  have idle : program.main.Idle :=
    rest.invariant (fun program => program.main.Idle) ⟨untouched, cleared, Or.inl ring⟩
      (fun _ _ _ idle stepped => idle_step idle stepped)
  exact ⟨idle.calls, idle.commands, idle.queue, idle.transmitted⟩

/-- The same world, but the SDK does not come up. -/
def brokenWorld : World :=
  { lobbyWorld with initFails := true }

/-- The steps up to the login loop. -/
def toLogins : List MainLoop.Event :=
  List.replicate 4 (.main .full)

/-- An alarm comes, and the program goes on to its return. -/
def fromLogins : List MainLoop.Event :=
  .callback MainLoop.lobbyCall :: List.replicate 20 (.main .full)

theorem broken_silent :
    exists stopped program, Run (step brokenWorld) (start .missing) toLogins stopped ∧
      Run (step brokenWorld) stopped fromLogins program ∧ program.stage = .returned 0 ∧ program.main.calls = [] ∧
      program.main.msgModuleCom.transmitted = [] := by
  have viewed : (toLogins.foldlM (advance brokenWorld) (start .missing)).map
      (fun program => (program.stage, program.main.serviceRun)) = .ok (.camera 0 1, false) := by
    decide +kernel
  rcases exists_of_map_eq_ok viewed with ⟨stopped, executed, view⟩
  rw [Prod.mk.injEq] at view
  have viewed_later : ((toLogins ++ fromLogins).foldlM (advance brokenWorld) (start .missing)).map Program.stage =
      .ok (.returned 0) := by
    decide +kernel
  rcases exists_of_map_eq_ok viewed_later with ⟨program, executed_later, stage⟩
  rw [List.foldlM_append, executed] at executed_later
  have rest := Run.of_foldlM executed_later
  have run := Run.of_foldlM executed
  have inStart : stopped.stage.inStart = true := by
    rw [view.1]
    rfl
  rcases stopped_start_silent run inStart view.2 rest with ⟨calls, -, -, transmitted⟩
  exact ⟨stopped, program, run, rest, stage, calls, transmitted⟩

/-! ## The return -/

section Return

variable {entries cameras : Nat}

/-- The steps of `main` to its return when the service is stopped, with so many
cameras in the table. -/
def stageWork (entries cameras : Nat) (main : MainLoop) : Stage -> Nat
  | .createPidFile => cameras + 11
  | .parseCsvData => cameras + 10
  | .connectDataBase => cameras + 9
  | .initialSDK => cameras + 8
  | .camera i cameraNum => (cameraNum - i) + 7
  | .openPort => 6
  | .loop => main.stopWork entries + 4
  | .remove => 3
  | .close => 2
  | .deinitialSDK => 1
  | .returned _ => 0

def returnWork (entries cameras : Nat) (program : Program) : Nat :=
  stageWork entries cameras program.main program.stage

/-- A connection leaves no camera, or the rows of the result. -/
theorem connect_loaded {tables : ResultSet} (answers : world.Answers tables) {parsed ret : Bool} {dbCfg : CsvParse}
    {opened : Int32} {loaded : DataBaseOperate}
    (connected : (world.host runDirectory parsed dbCfg opened).connect = .ok (ret, loaded)) :
    loaded.cameraInfoFromDB = [] ∨ loaded.Holds tables.loaded := by
  rcases connectDataBase_cases connected with early | ⟨session, made, result⟩
  · cases early
    exact Or.inl rfl
  · cases ret with
    | false => exact Or.inl (failed_load_keeps_stores result.symm).1
    | true =>
        rcases getCameraInfoFromDB_true result.symm with ⟨_, others, same, stored, rows⟩
        cases same
        cases answers _ _ _ _ _ _ _ made stored
        exact Or.inr (loadResult_holds rows)

/-- The table that a connection loads has no more rows than the result. -/
theorem connect_cameraNum_le {tables : ResultSet} (answers : world.Answers tables) (few : tables.loaded.length ≤ cameras)
    {parsed ret : Bool} {dbCfg : CsvParse} {opened : Int32} {loaded : DataBaseOperate}
    (connected : (world.host runDirectory parsed dbCfg opened).connect = .ok (ret, loaded)) :
    loaded.getCameraNum ≤ cameras := by
  rw [DataBaseOperate.getCameraNum]
  rcases connect_loaded answers connected with none_loaded | held
  · rw [none_loaded]
    exact Nat.zero_le _
  · rw [held.records, List.length_map]
    exact few

/-- An idle loop takes one step to its return. -/
theorem idle_stopWork {main : MainLoop} (idle : main.Idle) :
    main.stopWork entries = if main.task = .exited 0 then 0 else 1 := by
  rw [MainLoop.stopWork, MainLoop.work, idle.head]
  rcases idle.task with ring | exited
  · rw [ring]
    rfl
  · rw [if_pos exited, if_pos exited]

/-- Once the service is stopped it stays so. -/
theorem stopped_step {event : MainLoop.Event} (cleared : program.main.serviceRun = false)
    (stepped : step world program event after) : after.main.serviceRun = false := by
  have loop : forall {main event}, MainLoop.step world.localtimeR program.main event main -> main.serviceRun = false := by
    intro main event loopStep
    rcases MainLoop.step_serviceRun loopStep with same | ⟨-, now⟩
    · exact same.trans cleared
    · exact now
  cases other : event.ofMain with
  | false =>
      rcases step_other stepped other with ⟨main, loopStep, rfl⟩
      exact loop loopStep
  | true =>
      cases event with
      | callback call => cases other
      | transmit number => cases other
      | sigterm => cases other
      | main outcome =>
          have moved : program.next world outcome = .ok after := stepped
          cases inStart : program.stage.inStart with
          | true =>
              rcases next_start inStart moved with ⟨dataBase, isnormal, failed, same⟩
              rw [same]
              cases failed with
              | false => exact cleared
              | true => rfl
          | false =>
              rcases next_past inStart moved with ⟨-, -, -, unchanged | ⟨-, next⟩⟩
              · rw [unchanged]
                exact cleared
              · have loopStep : MainLoop.step world.localtimeR program.main (.main outcome) after.main := next
                exact loop loopStep

/-- In the loop of a stopped service a step of `main` takes away some work. -/
theorem serve_work {tables : ResultSet} (answers : world.Answers tables)
    (numbered : MainLoop.Numbered entries tables.loaded) (countable : entries < 2 ^ 32) {outcome : WriteOutcome}
    (run : Run (step world) (start runDirectory) events program) (cleared : program.main.serviceRun = false)
    (here : program.stage = .loop) (served : program.serve world outcome = .ok after) :
    returnWork entries cameras after < program.main.stopWork entries + 4 := by
  have past : program.stage.inStart = false := by
    rw [here]
    rfl
  rcases serve_cases served with ⟨task, rfl⟩ | ⟨code, other, task, rfl⟩ | ⟨main, running, moved, rfl⟩
  · change 3 < program.main.stopWork entries + 4
    omega
  · exact Nat.succ_pos _
  · rw [returnWork, here]
    apply Nat.add_lt_add_right
    have loopStep : MainLoop.step world.localtimeR program.main (.main outcome) main := moved
    rcases loop_cases run past with idle | ⟨_, _, _, _, _, session, others, made, stored, ready⟩
    · rcases idle.task with ring | exited
      · rcases MainLoop.next_ring ring moved with ⟨-, -, rfl⟩ | ⟨other, -⟩
        · rw [idle_stopWork idle, if_neg (running 0), MainLoop.stopWork, if_pos rfl]
          exact Nat.one_pos
        · exact absurd ⟨idle.head, idle.stopped⟩ other
      · exact absurd exited (running 0)
    · cases answers _ _ _ _ _ _ _ made stored
      apply (MainLoop.countdown_stop numbered countable).lowers ⟨ready, cleared⟩ loopStep rfl
      rw [MainLoop.stopWork, if_neg (running 0)]
      exact Nat.succ_pos _

theorem parseCsvData_work (here : program.stage = .parseCsvData) (parsing : program.parseCsvData world = .ok after) :
    returnWork entries cameras after < returnWork entries cameras program := by
  rw [parseCsvData] at parsing
  split at parsing
  · cases parsing
  · cases parsing
    rw [returnWork, returnWork, here]
    exact Nat.lt_succ_self (cameras + 9)

theorem connectDataBase_work (here : program.stage = .connectDataBase)
    (connecting : program.connectDataBase world = .ok after) :
    returnWork entries cameras after < returnWork entries cameras program := by
  rcases exists_of_map_eq_ok connecting with ⟨connected, -, rfl⟩
  rw [returnWork, returnWork, here]
  exact Nat.lt_succ_self (cameras + 8)

/-- The login loop has no more rounds than there are rows. -/
theorem initialSDK_work {tables : ResultSet} (answers : world.Answers tables) (few : tables.loaded.length ≤ cameras)
    (run : Run (step world) (start runDirectory) events program) (here : program.stage = .initialSDK) :
    returnWork entries cameras (program.initialSDK world) < returnWork entries cameras program := by
  have came := (sound_of_run run).came
  rw [here] at came
  rcases came with ⟨parsed, ret, -, -, connected, -⟩
  have most := connect_cameraNum_le answers few connected
  rw [returnWork, returnWork, here]
  change program.main.dataBase.getCameraNum - 0 + 7 < cameras + 8
  omega

theorem camera_work {i cameraNum : Nat} (here : program.stage = .camera i cameraNum)
    (turn : program.camera world i cameraNum = .ok after) :
    returnWork entries cameras after < returnWork entries cameras program := by
  rw [camera] at turn
  split at turn
  · rename_i more
    rcases exists_of_map_eq_ok turn with ⟨looked, -, rfl⟩
    rw [returnWork, returnWork, here]
    change cameraNum - (i + 1) + 7 < cameraNum - i + 7
    omega
  · cases turn
    rw [returnWork, returnWork, here]
    change 6 < cameraNum - i + 7
    omega

/-- The loop of a stopped service that has just been entered is idle. -/
theorem openPort_work (run : Run (step world) (start runDirectory) events program)
    (cleared : program.main.serviceRun = false) (here : program.stage = .openPort)
    (opening : program.openPort world = .ok after) :
    returnWork entries cameras after < returnWork entries cameras program := by
  have inStart : program.stage.inStart = true := by
    rw [here]
    rfl
  have stepped : step world program (.main .full) after := by
    change program.next world .full = .ok after
    rw [next, here]
    exact opening
  rcases ((sound_of_run run).waits inStart).untouched with ⟨untouched, ring⟩
  have idle := idle_step ⟨untouched, cleared, Or.inl ring⟩ stepped
  have few_steps : after.main.stopWork entries ≤ 1 := by
    rw [idle_stopWork idle]
    split
    · exact Nat.zero_le _
    · exact Nat.le_refl _
  rcases exists_of_map_eq_ok opening with ⟨opened, -, rfl⟩
  rw [returnWork, returnWork, here]
  exact Nat.lt_succ_of_le (Nat.add_le_add_right few_steps 4)

/-- The environment adds no work. -/
theorem returnWork_other {event : MainLoop.Event} (stepped : step world program event after)
    (other : event.ofMain = false) : returnWork entries cameras after ≤ returnWork entries cameras program := by
  rcases step_other stepped other with ⟨main, loopStep, rfl⟩
  rcases MainLoop.step_other loopStep other with ⟨pass, -, task⟩
  have same : main.stopWork entries = program.main.stopWork entries := by
    rw [MainLoop.stopWork, MainLoop.stopWork, MainLoop.work, MainLoop.work, pass, task]
  rw [returnWork, returnWork]
  cases program.stage with
  | loop => exact Nat.le_of_eq (congrArg (fun work => work + 4) same)
  | createPidFile => exact Nat.le_refl _
  | parseCsvData => exact Nat.le_refl _
  | connectDataBase => exact Nat.le_refl _
  | initialSDK => exact Nat.le_refl _
  | camera i cameraNum => exact Nat.le_refl _
  | openPort => exact Nat.le_refl _
  | remove => exact Nat.le_refl _
  | close => exact Nat.le_refl _
  | deinitialSDK => exact Nat.le_refl _
  | returned code => exact Nat.le_refl _

/-- A step of `main` in a stopped program takes away some work. -/
theorem next_work {tables : ResultSet} (answers : world.Answers tables) (few : tables.loaded.length ≤ cameras)
    (numbered : MainLoop.Numbered entries tables.loaded) (countable : entries < 2 ^ 32) {outcome : WriteOutcome}
    (run : Run (step world) (start runDirectory) events program) (cleared : program.main.serviceRun = false)
    (some_work : 0 < returnWork entries cameras program) (moved : program.next world outcome = .ok after) :
    returnWork entries cameras after < returnWork entries cameras program := by
  unfold next at moved
  cases here : program.stage with
  | createPidFile =>
      rw [here] at moved
      cases moved
      rw [returnWork, returnWork, here]
      exact Nat.lt_succ_self (cameras + 10)
  | parseCsvData =>
      rw [here] at moved
      exact parseCsvData_work here moved
  | connectDataBase =>
      rw [here] at moved
      exact connectDataBase_work here moved
  | initialSDK =>
      rw [here] at moved
      cases moved
      exact initialSDK_work answers few run here
  | camera i cameraNum =>
      rw [here] at moved
      exact camera_work here moved
  | openPort =>
      rw [here] at moved
      exact openPort_work run cleared here moved
  | loop =>
      rw [here] at moved
      rw [returnWork.eq_def entries cameras program, here]
      exact serve_work answers numbered countable run cleared here moved
  | remove =>
      rw [here] at moved
      cases moved
      rw [returnWork, returnWork, here]
      exact Nat.lt_succ_self 2
  | close =>
      rw [here] at moved
      cases moved
      rw [returnWork, returnWork, here]
      exact Nat.lt_succ_self 1
  | deinitialSDK =>
      rw [here] at moved
      cases moved
      rw [returnWork, returnWork, here]
      exact Nat.lt_succ_self 0
  | returned code =>
      rw [returnWork, here] at some_work
      exact absurd some_work (Nat.lt_irrefl 0)

/-- With `ServiceRun` cleared every step of `main` leads to its return. -/
theorem countdown_return {tables : ResultSet} (answers : world.Answers tables) (few : tables.loaded.length ≤ cameras)
    (numbered : MainLoop.Numbered entries tables.loaded) (countable : entries < 2 ^ 32) :
    Countdown (step world)
      (fun program => (exists events, Run (step world) (start runDirectory) events program) ∧
        program.main.serviceRun = false)
      MainLoop.Event.ofMain (returnWork entries cameras) where
  keeps := by
    rintro before label after ⟨⟨events, run⟩, cleared⟩ stepped
    exact ⟨⟨events ++ [label], run.snoc stepped⟩, stopped_step cleared stepped⟩
  lowers := by
    rintro before label after ⟨⟨events, run⟩, cleared⟩ stepped ofMain some_work
    cases label with
    | callback call => cases ofMain
    | transmit number => cases ofMain
    | sigterm => cases ofMain
    | main outcome => exact next_work answers few numbered countable run cleared some_work stepped
  bounds := by
    rintro before label after - stepped other
    exact returnWork_other stepped other

/-- No stage is further from the return than this. -/
theorem returnWork_le {tables : ResultSet} (answers : world.Answers tables) (few : tables.loaded.length ≤ cameras)
    (numbered : MainLoop.Numbered entries tables.loaded)
    (run : Run (step world) (start runDirectory) events program) :
    returnWork entries cameras program ≤ cameras + MainLoop.passBound entries + 2 * entries + 11 := by
  rw [returnWork]
  have came := (sound_of_run run).came
  cases here : program.stage with
  | camera i cameraNum =>
      rw [here] at came
      rcases came with ⟨parsed, ret, loaded, -, connected, number, -⟩
      have most := connect_cameraNum_le answers few connected
      change cameraNum - i + 7 ≤ _
      omega
  | loop =>
      have past : program.stage.inStart = false := by
        rw [here]
        rfl
      have steps : program.main.stopWork entries ≤ MainLoop.passBound entries + 2 * entries + 3 := by
        rcases loop_cases run past with idle | ⟨_, _, _, _, _, session, others, made, stored, ready⟩
        · rw [idle_stopWork idle]
          split
          · exact Nat.zero_le _
          · omega
        · cases answers _ _ _ _ _ _ _ made stored
          have work := ready.work_le numbered
          rw [MainLoop.stopWork]
          split
          · exact Nat.zero_le _
          · omega
      change program.main.stopWork entries + 4 ≤ _
      omega
  | createPidFile => change cameras + 11 ≤ _; omega
  | parseCsvData => change cameras + 10 ≤ _; omega
  | connectDataBase => change cameras + 9 ≤ _; omega
  | initialSDK => change cameras + 8 ≤ _; omega
  | openPort => change 6 ≤ _; omega
  | remove => change 3 ≤ _; omega
  | close => change 2 ≤ _; omega
  | deinitialSDK => change 1 ≤ _; omega
  | returned code => exact Nat.zero_le _

/-- A program that has returned stays so. -/
theorem step_returned {event : MainLoop.Event} {code : Int} (ended : program.stage = .returned code)
    (stepped : step world program event after) : after.stage = .returned code := by
  cases other : event.ofMain with
  | false =>
      rcases step_other stepped other with ⟨main, -, rfl⟩
      exact ended
  | true =>
      cases event with
      | callback call => cases other
      | transmit number => cases other
      | sigterm => cases other
      | main outcome =>
          have moved : program.next world outcome = .ok program := by rw [next, ended]
          cases moved.symm.trans stepped
          exact ended

/-- Whenever the termination signal comes, during the start or in the middle of a
pass, `main` returns 0 once it has been given the steps of the start and of a
pass. -/
theorem ends_after_signal {tables : ResultSet} {later : List MainLoop.Event} (answers : world.Answers tables)
    (few : tables.loaded.length ≤ cameras) (numbered : MainLoop.Numbered entries tables.loaded)
    (countable : entries < 2 ^ 32)
    (run : Run (step world) (start runDirectory) (events ++ .sigterm :: later) program)
    (enough : cameras + MainLoop.passBound entries + 2 * entries + 11 ≤ later.countP MainLoop.Event.ofMain) :
    program.stage = .returned 0 := by
  have whole := run
  rw [List.append_cons] at run
  rcases run.split with ⟨signalled, before, rest⟩
  have cleared : signalled.main.serviceRun = false := by
    rcases before.split with ⟨middle, -, last⟩
    generalize labels : [MainLoop.Event.sigterm] = signal at last
    cases last with
    | nil => cases labels
    | snoc earlier stepped =>
        rcases List.append_eq_singleton_iff.mp labels.symm with ⟨-, same⟩ | ⟨-, same⟩
        · cases same
          cases stepped
          rfl
        · cases same
  have most := Nat.le_trans (returnWork_le answers few numbered before) enough
  rcases (countdown_return answers few numbered countable).passes ⟨⟨_, before⟩, cleared⟩ rest most with
    ⟨-, _, middle, -, -, back, done, -⟩
  have ended : exists code, middle.stage = .returned code := by
    rw [returnWork] at done
    cases here : middle.stage with
    | returned code => exact ⟨code, rfl⟩
    | createPidFile => rw [here] at done; cases done
    | parseCsvData => rw [here] at done; cases done
    | connectDataBase => rw [here] at done; cases done
    | initialSDK => rw [here] at done; cases done
    | camera i cameraNum => rw [here] at done; cases done
    | openPort => rw [here] at done; cases done
    | loop => rw [here] at done; cases done
    | remove => rw [here] at done; cases done
    | close => rw [here] at done; cases done
    | deinitialSDK => rw [here] at done; cases done
  rcases ended with ⟨code, ended⟩
  have still : program.stage = .returned code :=
    back.invariant (fun program : Program => program.stage = .returned code) ended
      (fun _ _ _ ended stepped => step_returned ended stepped)
  rw [still, returned_code whole still]

end Return

theorem lobby_ends :
    exists program, Run (step lobbyWorld) (start .missing) lobbyDay program ∧ program.stage = .returned 0 := by
  rcases lobbyDay_run with ⟨program, run, -⟩
  have few : lobby.loaded.length ≤ 1 := by decide
  have numbered : MainLoop.Numbered 2 lobby.loaded := by decide
  have enough : 1 + MainLoop.passBound 2 + 2 * 2 + 11 ≤
      (List.replicate 300 (.main .full)).countP MainLoop.Event.ofMain := by
    rw [List.countP_replicate]
    decide
  exact ⟨program, run, ends_after_signal lobbyWorld_answers few numbered (by decide) run enough⟩

end Program

end Service
end MotionDetectAlarm
