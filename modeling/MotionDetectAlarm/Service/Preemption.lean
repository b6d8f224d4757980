import MotionDetectAlarm.HikDev.Interleaving
import MotionDetectAlarm.Service.EndToEnd

namespace MotionDetectAlarm
namespace Service

open Foundation DataBase HikDev SerialPort

/-!
# Callbacks cut at their stores

The program as the two threads run it.  A callback makes its stores one at a time,
and `HikDevGetAlarmNum` reads the write index twice, for its comparison and for its
subtraction.  Anything may come in between, during the start as well as in the
loop.

`main` looks at the ring through its accessors only, and what these give depends on
the waiting alarms and on what has been released.  Over two rings that hold the
same waiting alarms every step of `main` does the same, wherever the write index
stands and whatever the free slots hold.
-/

/-! ## Data -/

/-- The program, and what its two threads are in the middle of. -/
structure Preempted where
  program : Program
  producer : Option (AlarmMotionDetect × Store)
  /-- What the comparison in `HikDevGetAlarmNum` has given, up to the subtraction. -/
  compared : Option Bool

/-- The comparison in `HikDevGetAlarmNum`. -/
def alarmNumTest (ring : AlarmRing) : Bool :=
  decide (ring.dwAlarmMotionDetectWr ≥ ring.dwAlarmMotionDetectRd)

/-- The branches of `HikDevGetAlarmNum`. -/
def alarmNumResult (ring : AlarmRing) (inOrder : Bool) : UInt32 :=
  if inOrder then ring.dwAlarmMotionDetectWr - ring.dwAlarmMotionDetectRd
  else alarmMotionDetectMax - ring.dwAlarmMotionDetectRd + ring.dwAlarmMotionDetectWr

theorem alarmNumResult_test (ring : AlarmRing) : alarmNumResult ring (alarmNumTest ring) = ring.hikDevGetAlarmNum := by
  unfold alarmNumResult alarmNumTest AlarmRing.hikDevGetAlarmNum
  by_cases inOrder : ring.dwAlarmMotionDetectWr ≥ ring.dwAlarmMotionDetectRd
  · rw [if_pos inOrder, if_pos (decide_eq_true inOrder)]
  · rw [if_neg inOrder, decide_eq_false inOrder]
    rfl

def MainLoop.withDrain (main : MainLoop) (drain : Drain) : MainLoop :=
  { main with drain := drain }

def Program.withDrain (program : Program) (drain : Drain) : Program :=
  { program with main := program.main.withDrain drain }

/-- `main` is at the head of its service loop. -/
def Program.AtHead (program : Program) : Prop :=
  program.stage = .loop ∧ program.main.task = .ring ∧ program.main.drain.pass = .head

instance (program : Program) : Decidable program.AtHead :=
  inferInstanceAs (Decidable (_ ∧ _ ∧ _))

namespace Preempted

def start (runDirectory : RunDirectory) : Preempted where
  program := Program.start runDirectory
  producer := none
  compared := none

/-- What the scheduler may run next. -/
inductive Event where
  /-- The SDK enters the callback. -/
  | enter (call : AlarmCallback)
  /-- The callback in progress makes its next store. -/
  | store
  | main (outcome : WriteOutcome)
  | transmit (number : Nat)
  | sigterm

/-- The record that an event takes up, if any. -/
def Event.record : Event -> Option AlarmMotionDetect
  | .enter call => call.record
  | _ => none

/-! ## Steps -/

variable (world : World) (state : Preempted)

/-- The ring and the callback in progress. -/
def shared : Interleaved where
  drain := state.program.main.drain
  producer := state.producer
  trace := []

def withShared (shared : Interleaved) : Preempted :=
  { state with
    program := state.program.withDrain shared.drain
    producer := shared.producer }

/-- The subtraction, and the entry into the loop over the alarms. -/
def count (inOrder : Bool) : Preempted :=
  let drain := state.program.main.drain
  let uiAlarmNum := alarmNumResult drain.ring inOrder
  { state with
    program := state.program.withDrain (if uiAlarmNum = 0 then drain else { drain with pass := .dateTime uiAlarmNum 0 })
    compared := none }

/-- The next step of `main`. -/
def next (outcome : WriteOutcome) : Except Fault Preempted :=
  match state.compared with
  | some inOrder => .ok (state.count inOrder)
  | none =>
      if state.program.AtHead ∧ state.program.main.serviceRun = true then
        .ok { state with compared := some (alarmNumTest state.program.main.drain.ring) }
      else (state.program.next world outcome).map (fun program => { state with program := program })

def advance : Event -> Except Interleaved.Refusal Preempted
  | .enter call => (state.shared.advance world.localtimeR (.enter call)).map state.withShared
  | .store => (state.shared.advance world.localtimeR .store).map state.withShared
  | .main outcome => (state.next world outcome).mapError .fault
  | .transmit number =>
      ((state.program.advance world (.transmit number)).map
        (fun program => { state with program := program })).mapError .fault
  | .sigterm =>
      ((state.program.advance world .sigterm).map (fun program => { state with program := program })).mapError .fault

def step (event : Event) (after : Preempted) : Prop :=
  state.advance world event = .ok after

/-- At most 31 alarms wait, a count is finished in time, and the writes are of this
kind. -/
structure OnTime (writes : WriteOutcome -> Prop) (before : Preempted) (event : Event) (after : Preempted) : Prop where
  bounded : after.program.main.drain.Bounded
  writes : forall outcome, event = .main outcome -> writes outcome
  compared : forall outcome inOrder, event = .main outcome -> before.compared = some inOrder ->
    inOrder = alarmNumTest before.program.main.drain.ring ∧ ¬ before.shared.Overtaken

def onTimeStep (writes : WriteOutcome -> Prop) : Preempted -> Event -> Preempted -> Prop :=
  Guarded (step world) (OnTime writes)

end Preempted

/-! ## What the consumer sees -/

/-- Two rings with the same history, of which the consumer has seen the same. -/
structure SameHistory (first second : Drain) : Prop where
  pass : first.pass = second.pass
  published : first.published = second.published
  released : first.released = second.released
  presented : first.presented = second.presented

section SameHistory

variable {localtimeR : Int -> Tm} {first second next : Drain}

theorem SameHistory.bounded (same : SameHistory first second) (bounded : first.Bounded) : second.Bounded := by
  unfold Drain.Bounded at *
  rw [← same.published, ← same.released]
  exact bounded

/-- The waiting alarms are in the slots of both rings. -/
theorem SameHistory.readSlot (same : SameHistory first second) (faithful : Drain.Faithful localtimeR first)
    (other : Drain.Faithful localtimeR second) (bounded : first.Bounded) {i : UInt32} {slot : AlarmMotionDetect}
    (below : i.toNat < first.pass.snapshot) (found : first.ring.readSlot i = .ok slot) :
    second.ring.readSlot i = .ok slot := by
  rcases faithful.readSlot bounded below with ⟨record, listed, read⟩
  rcases other.readSlot (same.bounded bounded) (same.pass ▸ below) with ⟨again, listedAgain, readAgain⟩
  rw [← same.published, ← same.released, listed] at listedAgain
  cases listedAgain
  cases found.symm.trans read
  exact readAgain

/-- A consumer call behind the head gives the same on both rings. -/
theorem SameHistory.consume (same : SameHistory first second) (faithful : Drain.Faithful localtimeR first)
    (other : Drain.Faithful localtimeR second) (bounded : first.Bounded) (behind : first.pass ≠ .head)
    (consumed : first.consume localtimeR = .ok next) :
    exists result, second.consume localtimeR = .ok result ∧ SameHistory next result := by
  have inRange := faithful.inRange
  rcases Drain.consume_cases consumed with ⟨here, -⟩ | ⟨here, -⟩ | ⟨uiAlarmNum, i, slot, here, found, rfl⟩ |
    ⟨uiAlarmNum, i, read, slot, here, found, rfl⟩ | ⟨uiAlarmNum, here, rfl⟩
  · exact absurd here behind
  · exact absurd here behind
  · rw [here] at inRange
    have read := same.readSlot faithful other bounded (here ▸ inRange) found
    refine ⟨{ second with pass := .ip uiAlarmNum i (slot.dateTime localtimeR) }, ?_, rfl, same.published, same.released,
      same.presented⟩
    rw [Drain.consume, ← same.pass, here]
    simp only [hikDevGetAlarmDateTime_ok localtimeR read]
    rfl
  · rw [here] at inRange
    have address := same.readSlot faithful other bounded (here ▸ inRange) found
    refine ⟨{ second with
      pass := if i + 1 < uiAlarmNum then .dateTime uiAlarmNum (i + 1) else .release uiAlarmNum
      presented := second.presented ++ [(read, slot.ip)] }, ?_, rfl, same.published, same.released, ?_⟩
    · rw [Drain.consume, ← same.pass, here]
      simp only [hikDevGetAlarmIp_ok address]
      rfl
    · change first.presented ++ _ = second.presented ++ _
      rw [same.presented]
  · refine ⟨{ second with
      ring := second.ring.hikDevSetAlarmIdxOffset uiAlarmNum
      pass := .head
      released := second.released + uiAlarmNum.toNat }, ?_, rfl, same.published, ?_, same.presented⟩
    · rw [Drain.consume, ← same.pass, here]
    · change first.released + _ = second.released + _
      rw [same.released]

end SameHistory

namespace MainLoop

variable {localtimeR : Int -> Tm} {main after : MainLoop} {drain : Drain} {outcome : WriteOutcome}

/-- The loop does the same over both rings. -/
theorem ringCall_same (same : SameHistory main.drain drain) (faithful : Drain.Faithful localtimeR main.drain)
    (other : Drain.Faithful localtimeR drain) (bounded : main.drain.Bounded) (behind : main.drain.pass ≠ .head)
    (called : main.ringCall localtimeR = .ok after) :
    exists result, main.drain.consume localtimeR = .ok after.drain ∧ drain.consume localtimeR = .ok result ∧
      SameHistory after.drain result ∧ (main.withDrain drain).ringCall localtimeR = .ok (after.withDrain result) := by
  unfold ringCall at called
  split at called
  · cases called
  · rename_i next consumed
    rcases same.consume faithful other bounded behind consumed with ⟨result, consumedToo, sameAfter⟩
    split at called
    · rename_i uiAlarmNum i read here
      split at called
      · cases called
      · rename_i strAlarmIp address
        cases called
        refine ⟨result, consumed, consumedToo, sameAfter, ?_⟩
        have inRange := faithful.inRange
        rw [here] at inRange
        rcases exists_of_map_eq_ok address with ⟨slot, found, rfl⟩
        have addressToo := hikDevGetAlarmIp_ok (same.readSlot faithful other bounded (here ▸ inRange) found)
        unfold ringCall
        simp only [withDrain, consumedToo, ← same.pass, here, addressToo]
        rfl
    · rename_i elsewhere
      cases called
      refine ⟨result, consumed, consumedToo, sameAfter, ?_⟩
      unfold ringCall
      simp only [withDrain, consumedToo, ← same.pass]

theorem stopIf_withDrain (main : MainLoop) (drain : Drain) (failed : Bool) :
    (main.withDrain drain).stopIf failed = (main.stopIf failed).withDrain drain := by
  cases failed with
  | false => rfl
  | true => rfl

/-- Behind a ring call `main` does not look at the ring. -/
theorem next_withDrain (localtimeR : Int -> Tm) (elsewhere : main.task ≠ .ring) (drain : Drain) :
    (main.withDrain drain).next localtimeR outcome =
      (main.next localtimeR outcome).map (fun after => after.withDrain drain) := by
  unfold next
  cases here : main.task with
  | ring => exact absurd here elsewhere
  | lookup strDataTime strAlarmIp =>
      simp only [withDrain, here, lookup]
      cases main.dataBase.getCameraName strAlarmIp with
      | error fault => rfl
      | ok answer =>
          rcases answer with ⟨strAlarmDevName | strAlarmDevName, dataBase⟩
          · rfl
          · dsimp only
            cases dataBase.getCameraWarnPhone strAlarmIp with
            | none => rfl
            | some vstrPhone => rfl
  | phones job j =>
      simp only [withDrain, here, phoneRound]
      cases job.vstrPhone[j.toNat]? with
      | none => rfl
      | some strPhoneNum =>
          dsimp only
          cases job.packMsg strPhoneNum with
          | error fault => rfl
          | ok strMsgSent =>
              dsimp only
              cases bufSent strMsgSent with
              | error fault => rfl
              | ok buf =>
                  dsimp only
                  rcases main.msgModuleCom.writeBuffer outcome buf with ⟨port, code | _⟩
                  · rfl
                  · rfl
  | flush job j =>
      simp only [withDrain, here]
      rfl
  | exited code =>
      simp only [withDrain, here]
      rw [← here]
      rfl

end MainLoop

namespace Program

variable {world : World} {program after : Program} {drain : Drain} {outcome : WriteOutcome}

/-- Outside the loop `main` does not look at the ring. -/
theorem next_withDrain (elsewhere : program.stage ≠ .loop) (drain : Drain) :
    (program.withDrain drain).next world outcome =
      (program.next world outcome).map (fun after => after.withDrain drain) := by
  rcases program with ⟨stage, runDirectory, dbCfg, operate, sdkReady, fd, closed, main⟩
  cases stage with
  | createPidFile =>
      simp only [next, createPidFile, withDrain, MainLoop.stopIf_withDrain]
      rfl
  | parseCsvData =>
      simp only [next, parseCsvData, withDrain]
      cases dbCfg.parseCsvData world.fopen world.buffer (some CsvParse.csvPath) with
      | error err => rfl
      | ok answer =>
          dsimp only
          rw [MainLoop.stopIf_withDrain]
          rfl
  | connectDataBase =>
      simp only [next, connectDataBase, withDrain, MainLoop.withDrain]
      cases main.dataBase.connectDataBase world.client (some (cStr dbCfg.dbCfg.dbIp)) (strToUintOut dbCfg.dbCfg.dbPort 0)
        (some (cStr dbCfg.dbCfg.dbUserName)) (some (cStr dbCfg.dbCfg.dbPasswd)) (some (cStr dbCfg.dbCfg.dbName))
        (some (cStr dbCfg.dbCfg.dbTable)) with
      | error fault => rfl
      | ok answer => exact congrArg Except.ok (congrArg _ (MainLoop.stopIf_withDrain (main.withTable answer.2) drain _))
  | initialSDK =>
      simp only [next, initialSDK, withDrain, MainLoop.stopIf_withDrain]
      rfl
  | camera i cameraNum =>
      simp only [next, camera, withDrain, MainLoop.withDrain]
      split
      · cases Subscribing.round world.sdk { dataBase := main.dataBase, operate := operate } i with
        | error fault => rfl
        | ok cameras => rfl
      · rfl
  | openPort =>
      simp only [next, openPort, withDrain, MainLoop.withDrain]
      cases world.tty.openPort world.behind main.msgModuleCom.isnormal 115200 8 1 'N'.toUInt8 with
      | error fault => rfl
      | ok opened => exact congrArg Except.ok (congrArg _ (MainLoop.stopIf_withDrain (main.withPort opened.isnormal) drain _))
  | loop => exact absurd rfl elsewhere
  | remove => rfl
  | close => rfl
  | deinitialSDK => rfl
  | returned code => rfl

theorem serve_withDrain (elsewhere : program.main.task ≠ .ring) (drain : Drain) :
    (program.withDrain drain).serve world outcome =
      (program.serve world outcome).map (fun after => after.withDrain drain) := by
  have turn : (program.main.withDrain drain).next world.localtimeR outcome =
      (program.main.next world.localtimeR outcome).map (fun main => main.withDrain drain) :=
    MainLoop.next_withDrain world.localtimeR elsewhere drain
  have map : forall {call : Except Fault MainLoop},
      (call.map (fun after => after.withDrain drain)).map (fun main => { program.withDrain drain with main := main }) =
        (call.map (fun main => { program with main := main })).map (fun after => after.withDrain drain) := by
    intro call
    cases call with
    | error fault => rfl
    | ok main => rfl
  rcases program with ⟨stage, runDirectory, dbCfg, operate, sdkReady, fd, closed, main⟩
  rcases main with ⟨ring, dataBase, msgModuleCom, serviceRun, task, calls, commands⟩
  cases task with
  | ring => exact absurd rfl elsewhere
  | lookup strDataTime strAlarmIp => exact (congrArg (Except.map _) turn).trans map
  | phones job j => exact (congrArg (Except.map _) turn).trans map
  | flush job j => exact (congrArg (Except.map _) turn).trans map
  | exited code =>
      simp only [serve, withDrain, MainLoop.withDrain]
      split
      · rfl
      · rfl
      · rfl

theorem next_loop (here : program.stage = .loop) : program.next world outcome = program.serve world outcome := by
  rw [next, here]

theorem serve_ring (task : program.main.task = .ring) :
    program.serve world outcome =
      (program.main.next world.localtimeR outcome).map (fun main => { program with main := main }) := by
  rw [serve, task]

/-- A step of `main` other than a count gives the same over both rings. -/
theorem next_same (same : SameHistory program.main.drain drain)
    (faithful : Drain.Faithful world.localtimeR program.main.drain) (other : Drain.Faithful world.localtimeR drain)
    (bounded : program.main.drain.Bounded)
    (elsewhere : ¬ (program.AtHead ∧ program.main.serviceRun = true)) (moved : program.next world outcome = .ok after) :
    exists result, (program.withDrain drain).next world outcome = .ok (after.withDrain result) ∧
      SameHistory after.main.drain result ∧
      ((after.main.drain = program.main.drain ∧ result = drain) ∨
        (program.main.drain.pass ≠ .head ∧ program.main.drain.consume world.localtimeR = .ok after.main.drain ∧
          drain.consume world.localtimeR = .ok result)) := by
  -- where the ring is not looked at, the step also keeps it
  have kept : (forall ring, (program.withDrain ring).next world outcome =
      (program.next world outcome).map (fun after => after.withDrain ring)) ->
      exists result, (program.withDrain drain).next world outcome = .ok (after.withDrain result) ∧
        SameHistory after.main.drain result ∧
        ((after.main.drain = program.main.drain ∧ result = drain) ∨
          (program.main.drain.pass ≠ .head ∧ program.main.drain.consume world.localtimeR = .ok after.main.drain ∧
            drain.consume world.localtimeR = .ok result)) := by
    intro frame
    have own := frame program.main.drain
    have elsewhere := frame drain
    rw [moved] at own elsewhere
    have unchanged : after = after.withDrain program.main.drain := Except.ok.inj (moved.symm.trans own)
    have ring : after.main.drain = program.main.drain := congrArg (fun program => program.main.drain) unchanged
    exact ⟨drain, elsewhere, ring ▸ same, Or.inl ⟨ring, rfl⟩⟩
  by_cases here : program.stage = .loop
  · by_cases task : program.main.task = .ring
    · rw [next_loop here, serve_ring task] at moved
      rcases exists_of_map_eq_ok moved with ⟨main, ran, rfl⟩
      have ring : (program.withDrain drain).main.task = .ring := task
      have inLoop : (program.withDrain drain).stage = .loop := here
      rw [next_loop inLoop, serve_ring ring]
      by_cases head : program.main.drain.pass = .head
      · have stopped : program.main.serviceRun = false :=
          Bool.eq_false_of_not_eq_true (fun running => elsewhere ⟨⟨here, task, head⟩, running⟩)
        rcases MainLoop.next_ring task ran with ⟨-, -, rfl⟩ | ⟨running, -⟩
        · refine ⟨drain, ?_, same, Or.inl ⟨rfl, rfl⟩⟩
          rw [MainLoop.next, ring]
          simp only [withDrain, MainLoop.withDrain, ← same.pass, head, stopped, and_self, if_true]
          rfl
        · exact absurd ⟨head, stopped⟩ running
      · rcases MainLoop.next_ring task ran with ⟨here, -⟩ | ⟨-, called⟩
        · exact absurd here head
        · rcases MainLoop.ringCall_same same faithful other bounded head called with
            ⟨result, consumed, consumedToo, sameAfter, calledToo⟩
          refine ⟨result, ?_, sameAfter, Or.inr ⟨head, consumed, consumedToo⟩⟩
          rw [MainLoop.next, ring]
          dsimp only
          rw [if_neg (fun both => head (same.pass.trans both.1))]
          exact congrArg (Except.map _) calledToo
    · refine kept (fun ring => ?_)
      have inLoop : (program.withDrain ring).stage = .loop := here
      rw [next_loop here, next_loop inLoop]
      exact serve_withDrain task ring
  · exact kept (next_withDrain here)

/-- Where a step returns over one ring, it returns over the other, as long as the
accessors do. -/
theorem next_proceeds (consumes : program.main.drain.pass ≠ .head ->
      exists next, program.main.drain.consume world.localtimeR = .ok next)
    (elsewhere : ¬ (program.AtHead ∧ program.main.serviceRun = true))
    (returns : exists next, (program.withDrain drain).next world outcome = .ok next) :
    exists after, program.next world outcome = .ok after := by
  have kept : (program.withDrain drain).next world outcome =
      (program.next world outcome).map (fun after => after.withDrain drain) ->
      exists after, program.next world outcome = .ok after := by
    intro frame
    rcases returns with ⟨next, ran⟩
    rcases exists_of_map_eq_ok (frame.symm.trans ran) with ⟨after, moved, -⟩
    exact ⟨after, moved⟩
  by_cases here : program.stage = .loop
  · by_cases task : program.main.task = .ring
    · have turn : exists main, program.main.next world.localtimeR outcome = .ok main := by
        rw [MainLoop.next, task]
        dsimp only
        split
        · exact ⟨_, rfl⟩
        · rename_i running
          have behind : program.main.drain.pass ≠ .head :=
            fun head => running
              ⟨head, Bool.eq_false_of_not_eq_true (fun runs => elsewhere ⟨⟨here, task, head⟩, runs⟩)⟩
          rcases consumes behind with ⟨next, consumed⟩
          exact MainLoop.ringCall_ok consumed
      rcases turn with ⟨main, ran⟩
      rw [next_loop here, serve_ring task, ran]
      exact ⟨_, rfl⟩
    · apply kept
      have inLoop : (program.withDrain drain).stage = .loop := here
      rw [next_loop here, next_loop inLoop]
      exact serve_withDrain task drain
  · exact kept (next_withDrain here drain)

end Program

end Service
end MotionDetectAlarm
